import KayLexer.Proofs.Encoding.Acceptance
import KayLexer.Proofs.Source.Reading

/-!
Reading bytes to their end. A source over bytes gives a text as far as the bytes spell one, and the
read behind it tells whether the bytes end there. Main statements: exactly the accepted bytes are
read without an error, and UTF-8 is read up to the character at which it is no longer well formed.
-/

namespace KayLexer

open Encoding (Decoder DecodeError Accepts)
open Position (start)

/-! ### The read behind a text -/

namespace Source

variable {s last last' : Source} {cs ds : List Char}

/-- A source gives one text up to the first read that gives no character. -/
theorem Delivers.unique (h : s.Delivers last cs) (h' : s.Delivers last' ds)
    (hl : ∀ c, last.read.1 ≠ .ok (some c)) (hl' : ∀ c, last'.read.1 ≠ .ok (some c)) :
    cs = ds ∧ last = last' := by
  induction cs generalizing s ds with
  | nil =>
    cases h
    cases ds with
    | nil => exact ⟨rfl, h'⟩
    | cons d ds => exact absurd h'.1 (hl d)
  | cons c cs ih =>
    cases ds with
    | nil =>
      cases h'
      exact absurd h.1 (hl' c)
    | cons d ds =>
      have hcd : c = d := by
        have := h.1.symm.trans h'.1
        simpa using this
      obtain ⟨rfl, rfl⟩ := ih h.2 h'.2
      exact ⟨by rw [hcd], rfl⟩

/-- A source is read to its end where it gives a text and then nothing. -/
theorem readAll_eq_ok_iff :
    s.readAll.1 = .ok cs ↔ ∃ last : Source, s.Delivers last cs ∧ last.read.1 = .ok none := by
  obtain ⟨last, ds, hd, h⟩ := delivers_of_readAll s
  have hl : ∀ c, last.read.1 ≠ .ok (some c) := by
    intro c hc
    rcases h with ⟨-, h⟩ | ⟨e, -, h⟩
    all_goals
      rw [h] at hc
      cases hc
  constructor
  · intro hcs
    rcases h with ⟨h, hn⟩ | ⟨e, h, -⟩
    · rw [hcs] at h
      cases h
      exact ⟨last, hd, hn⟩
    · rw [hcs] at h
      cases h
  · rintro ⟨last', hd', hn⟩
    have hl' : ∀ c, last'.read.1 ≠ .ok (some c) := by
      intro c hc
      rw [hn] at hc
      cases hc
    obtain ⟨rfl, rfl⟩ := hd'.unique hd hl' hl
    rcases h with ⟨h, -⟩ | ⟨e, -, h⟩
    · exact h
    · rw [hn] at h
      cases h

end Source

namespace ByteSource

/-- Behind the text the bytes are refused where the decoder refuses them. -/
theorem Holds.read_refused {s : ByteSource} {d : Decoder} {events : List StreamEvent}
    {x : DecodeError} (h : s.Holds d events []) (hx : d.Refuses events x) :
    s.read.1 = .error (s.decodeError x) := by
  obtain ⟨hp, stream, ho, he, hr⟩ := h.read_nil
  have hrefill : s.refill.1 = .error (s.decodeError x) := by
    rw [hr]
    exact refill_of_refuses ho (he ▸ hx)
  rw [ByteSource.read_nil hp]
  split
  all_goals
    next hs =>
      rw [hs] at hrefill
      cases hrefill <;> rfl

end ByteSource

/-! ### Accepted bytes -/

namespace Encoding.Decoder

/-- A decoder takes all bytes and misses nothing at the end, or takes some and refuses the rest. -/
theorem reads_or_refuses (d : Decoder) (bs : List UInt8) :
    (∃ cs d', d.Reads bs cs d' ∧ d'.finish = none) ∨ ∃ as rest cs d' x, bs = as ++ rest ∧
      d.Reads as cs d' ∧ d'.Refuses (rest.map .byte) x := by
  induction bs generalizing d with
  | nil =>
    cases hf : d.finish with
    | none => exact Or.inl ⟨[], d, .nil d, hf⟩
    | some x => exact Or.inr ⟨[], [], [], d, x, rfl, .nil d, .ending hf⟩
  | cons b bs ih =>
    cases hb : d.feed b with
    | mk r d₁ =>
      cases r with
      | error x => exact Or.inr ⟨[], b :: bs, [], d, x, rfl, .nil d, .byte hb⟩
      | ok cs =>
        rcases ih d₁ with ⟨ds, d', hr, hf⟩ | ⟨as, rest, ds, d', x, rfl, hr, hx⟩
        · exact Or.inl ⟨cs ++ ds, d', .cons hb hr, hf⟩
        · exact Or.inr ⟨b :: as, rest, cs ++ ds, d', x, rfl, .cons hb hr, hx⟩

end Encoding.Decoder

namespace Source

variable {medium : Medium} {path : Option SourcePath} {e : Encoding} {bytes : List UInt8}
  {cs : List Char}

/-- Bytes of which a decoder takes the first give its text and then the events behind them. -/
theorem delivers_ofBytes_append {d : Decoder} {as : List UInt8}
    (h : (Decoder.start e).Reads as cs d) (rest : List UInt8) (medium : Medium)
    (path : Option SourcePath) :
    ∃ last : ByteSource, (ofBytes medium (as ++ rest) path e).Delivers (.bytes last) cs ∧
      last.Holds d (rest.map .byte) [] := by
  rw [ofBytes, List.map_append]
  exact (ByteSource.holds_ofStream h medium path _).delivers

/-- Bytes are read to their end where a decoder takes them and misses nothing behind them. -/
theorem readAll_ofBytes_iff_reads : (ofBytes medium bytes path e).readAll.1 = .ok cs ↔
    ∃ d, (Decoder.start e).Reads bytes cs d ∧ d.finish = none := by
  have hread {ds : List Char} {d : Decoder} (hr : (Decoder.start e).Reads bytes ds d)
      (hf : d.finish = none) : (ofBytes medium bytes path e).readAll.1 = .ok ds := by
    obtain ⟨last, hd, hlast⟩ := delivers_ofBytes_append hr [] medium path
    rw [List.append_nil] at hd
    exact readAll_eq_ok_iff.2 ⟨_, hd, (hlast.exhausted hf).read⟩
  constructor
  · intro h
    rcases (Decoder.start e).reads_or_refuses bytes with
      ⟨ds, d, hr, hf⟩ | ⟨as, rest, ds, d, x, rfl, hr, hx⟩
    · have hds := (hread hr hf).symm.trans h
      cases hds
      exact ⟨d, hr, hf⟩
    · obtain ⟨last, hd, hlast⟩ := delivers_ofBytes_append hr rest medium path
      obtain ⟨last', hd', hn⟩ := readAll_eq_ok_iff.1 h
      have hx := hlast.read_refused hx
      obtain ⟨-, rfl⟩ := hd'.unique hd (by simp [hn]) (by simp [read, hx])
      rw [read, hx] at hn
      cases hn
  · rintro ⟨d, hr, hf⟩
    exact hread hr hf

/-- **Exactly the accepted bytes are read to their end.** They give the text whose bytes they are,
but for a byte order mark that breaks off in UTF-8, which gives nothing and is not missed. -/
theorem readAll_ofBytes_iff (hw : e ≠ .windows1252) (hb : e ≠ .big5hkscs) (medium : Medium)
    (bytes : List UInt8) (path : Option SourcePath) (cs : List Char) :
    (ofBytes medium bytes path e).readAll.1 = .ok cs ↔ Accepts e cs bytes := by
  rw [readAll_ofBytes_iff_reads]
  constructor
  · rintro ⟨d, hr, hf⟩
    exact Decoder.accepts_of_reads hw hb hr hf
  · intro h
    exact h.reads

/-- Text whose first character shares its first byte with the byte order mark. -/
theorem readAll_ofBytes_unsigned :
    (Encoding.utf8Signed ≠ .windows1252 ∧ Encoding.utf8Signed ≠ .big5hkscs) ∧
    (ofBytes .file [0xef, 0xbd, 0xa1, 0x78] none .utf8Signed).readAll.1 = .ok ['｡', 'x'] := by
  have hm : ¬ Encoding.utf8Mark <+: ['｡', 'x'].flatMap String.utf8EncodeChar := by decide
  refine ⟨by decide, ?_⟩
  rw [readAll_ofBytes_iff (by decide) (by decide)]
  exact .unsigned hm

/-- A byte order mark of which one byte is there: no bytes of a text, which plain UTF-8 refuses, and
yet they are read to their end. -/
theorem readAll_brokenOff :
    (ofBytes .file [0xef] none .utf8Signed).readAll.1 = .ok [] ∧
    ([0xef] ≠ ([] : List Char).flatMap String.utf8EncodeChar ∧
      [0xef] ≠ Encoding.utf8Mark ++ ([] : List Char).flatMap String.utf8EncodeChar) ∧
    (ofBytes .file [0xef] none .utf8).readAll.1 =
      .error (.unreadable ⟨none, ⟨1, 1⟩, .malformed ⟨.utf8, 0xef, [], .unexpectedEnd⟩⟩) := by
  refine ⟨?_, by decide, ?_⟩
  all_goals with_unfolding_all rfl

end Source

/-! ### The place of a failure -/

namespace Encoding.Utf8

/-- The text is the longest one with whose bytes in UTF-8 the bytes begin. -/
structure LongestIn (cs : List Char) (bytes : List UInt8) : Prop where
  isPrefix : cs.flatMap String.utf8EncodeChar <+: bytes
  longest : ∀ ds : List Char, ds.flatMap String.utf8EncodeChar <+: bytes →
    (ds.flatMap String.utf8EncodeChar).length ≤ (cs.flatMap String.utf8EncodeChar).length

theorem exists_longestIn (bytes : List UInt8) : ∃ cs, LongestIn cs bytes := by
  -- from any text on, there are only so many bytes left for a longer one
  have longer (n : Nat) (cs : List Char) (hp : cs.flatMap String.utf8EncodeChar <+: bytes)
      (hn : bytes.length - (cs.flatMap String.utf8EncodeChar).length = n) :
      ∃ ds, LongestIn ds bytes := by
    induction n using Nat.strongRecOn generalizing cs with
    | ind n ih =>
      by_cases h : ∃ ds : List Char, ds.flatMap String.utf8EncodeChar <+: bytes ∧
          (cs.flatMap String.utf8EncodeChar).length < (ds.flatMap String.utf8EncodeChar).length
      · obtain ⟨ds, hds, hlt⟩ := h
        have hle := hds.length_le
        exact ih _ (by omega) ds hds rfl
      · refine ⟨cs, hp, ?_⟩
        intro ds hds
        exact Nat.le_of_not_lt fun hlt => h ⟨ds, hds, hlt⟩
  exact longer _ [] (List.nil_prefix) rfl

/-- **Behind the longest text the decoder refuses what comes next.** -/
theorem LongestIn.refuses {cs : List Char} {rest : List UInt8}
    (h : LongestIn cs (cs.flatMap String.utf8EncodeChar ++ rest)) (hne : rest ≠ []) :
    ∃ m, Decoder.Refuses ⟨.utf8, []⟩ (rest.map .byte) (.malformed m) := by
  apply spells.refuses .nil (by simpa using hne)
  intro c _ hc
  -- with the character that stands there the text would be longer
  have hp : (cs ++ [c]).flatMap String.utf8EncodeChar <+:
      cs.flatMap String.utf8EncodeChar ++ rest := by
    rw [List.flatMap_append, List.prefix_append_right_inj]
    simpa using hc
  have hle := h.longest (cs ++ [c]) hp
  have hpos := String.length_utf8EncodeChar c
  have := c.utf8Size_pos
  simp only [List.flatMap_append, List.flatMap_singleton, List.length_append] at hle
  omega

end Encoding.Utf8

/-- **UTF-8 fails at the character that is not well formed.** The longest text that the bytes begin
with is read first. Where the bytes go on behind it, the next read finds them malformed, at the
position behind the text, and the source stays there. -/
theorem Source.delivers_longest (medium : Medium) (bytes : List UInt8)
    (path : Option SourcePath) : (∃ cs, Encoding.Utf8.LongestIn cs bytes) ∧
    ∀ cs, Encoding.Utf8.LongestIn cs bytes → ∃ last : Source,
      (ofBytes medium bytes path .utf8).Delivers last cs ∧
      (cs.flatMap String.utf8EncodeChar = bytes → last.read.1 = .ok none) ∧
      (cs.flatMap String.utf8EncodeChar ≠ bytes → ∃ m, last.read.1 =
        .error (.unreadable ⟨path, start.afterText cs, .malformed m⟩)) ∧
      last.read.2.position = start.afterText cs := by
  refine ⟨Encoding.Utf8.exists_longestIn bytes, ?_⟩
  intro cs h
  obtain ⟨rest, rfl⟩ := h.isPrefix
  have hr : (Decoder.start .utf8).Reads (cs.flatMap String.utf8EncodeChar) cs ⟨.utf8, []⟩ :=
    Encoding.Utf8.reads_text cs
  obtain ⟨last, hd, hlast⟩ := delivers_ofBytes_append hr rest medium path
  have hp : last.position = start.afterText cs := hd.position
  obtain ⟨l, hl, hpath⟩ := hd.bytes (P := fun s => s.path = path)
    (fun hs => (ByteSource.path_read _).trans hs) rfl
  cases hl
  refine ⟨.bytes last, hd, ?_⟩
  by_cases hrest : rest = []
  · subst hrest
    have hn : last.read.1 = .ok none := (hlast.exhausted rfl).read
    have hstay := ByteSource.position_read_of_ne (s := last) (by simp [hn])
    exact ⟨fun _ => hn, fun hne => absurd (List.append_nil _).symm hne, hstay.trans hp⟩
  · obtain ⟨m, hm⟩ := h.refuses hrest
    have hx := hlast.read_refused hm
    have hstay := ByteSource.position_read_of_ne (s := last) (by simp [hx])
    refine ⟨?_, ?_, hstay.trans hp⟩
    · intro hbytes
      exact absurd (List.append_right_eq_self.1 hbytes.symm) hrest
    · intro _
      refine ⟨m, hx.trans ?_⟩
      rw [ByteSource.decodeError, ByteSource.unreadable, hpath, hp]

end KayLexer
