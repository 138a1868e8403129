import KayLexer.Proofs.Encoding.Spelling

/-!
What decoders accept. Most of it are the bytes of a text, with the byte order mark that the encoding
asks for. Main statement: a decoder takes bytes and misses nothing at the end exactly where they are
accepted, which but for one case means that they are the bytes of the text that it gives. The one
case is UTF-8 whose byte order mark breaks off.
-/

namespace KayLexer.Encoding

/-! ### Byte order marks -/

namespace Decoder

variable {d m d' : Decoder} {as bs kept : List UInt8} {cs ds : List Char} {b : UInt8}

/-- What is read of bytes in two pieces is composed of what is read of the pieces. -/
theorem Reads.append_iff (h : d.Reads as cs m) :
    d.Reads (as ++ bs) ds d' ↔ ∃ es, ds = cs ++ es ∧ m.Reads bs es d' := by
  constructor
  · intro hr
    induction h generalizing ds with
    | nil => exact ⟨ds, rfl, hr⟩
    | cons hf _ ih =>
      cases hr with
      | cons hf' hr =>
        rw [hf] at hf'
        cases hf'
        obtain ⟨es, rfl, hes⟩ := ih hr
        exact ⟨es, (List.append_assoc ..).symm, hes⟩
  · rintro ⟨es, rfl, hes⟩
    exact h.append hes

/-- Bytes that give no character leave all to what stands behind them. -/
theorem Reads.nil_append_iff (h : d.Reads as [] m) :
    d.Reads (as ++ bs) ds d' ↔ m.Reads bs ds d' := by
  rw [h.append_iff]
  simp

/-- Bytes give one text, and leave one decoder. -/
theorem Reads.unique (h : d.Reads bs cs m) (h' : d.Reads bs ds d') : ds = cs ∧ d' = m := by
  have happ : d.Reads (bs ++ []) ds d' := by rwa [List.append_nil]
  obtain ⟨es, rfl, hes⟩ := h.append_iff.1 happ
  cases hes
  exact ⟨List.append_nil cs, rfl⟩

/-- The beginnings of the byte order mark in UTF-8. -/
def marksBegun : List (List UInt8) := [[], [0xef], [0xef, 0xbb]]

/-- Bytes break off within a mark, or go on behind one, or go on with a byte that is no part of
one. -/
theorem exists_markFront (bs : List UInt8) : bs ∈ marksBegun ∨ (∃ rest, bs = utf8Mark ++ rest) ∨
    ∃ kept ∈ marksBegun, ∃ b rest, bs = kept ++ b :: rest ∧ ¬ kept ++ [b] <+: utf8Mark := by
  cases bs with
  | nil => exact Or.inl (by decide)
  | cons a bs =>
  by_cases ha : a ≠ 0xef
  · exact Or.inr (Or.inr ⟨[], by decide, a, bs, rfl, by simp [utf8Mark, ha]⟩)
  obtain rfl : a = 0xef := Decidable.not_not.1 ha
  cases bs with
  | nil => exact Or.inl (by decide)
  | cons b bs =>
  by_cases hb : b ≠ 0xbb
  · exact Or.inr (Or.inr ⟨[0xef], by decide, b, bs, rfl, by simp [utf8Mark, hb]⟩)
  obtain rfl : b = 0xbb := Decidable.not_not.1 hb
  cases bs with
  | nil => exact Or.inl (by decide)
  | cons c bs =>
  by_cases hc : c ≠ 0xbf
  · exact Or.inr (Or.inr ⟨[0xef, 0xbb], by decide, c, bs, rfl, by simp [utf8Mark, hc]⟩)
  obtain rfl : c = 0xbf := Decidable.not_not.1 hc
  exact Or.inr (Or.inl ⟨bs, rfl⟩)

theorem reads_marksBegun (h : kept ∈ marksBegun) :
    (start utf8Signed).Reads kept [] ⟨.utf8Start, kept⟩ ∧
      Reads ⟨.utf8, []⟩ kept [] ⟨.utf8, kept⟩ := by
  simp only [marksBegun, List.mem_cons, List.not_mem_nil, or_false] at h
  rcases h with rfl | rfl | rfl
  · exact ⟨.nil _, .nil _⟩
  · exact ⟨.more rfl (.nil _), .more rfl (.nil _)⟩
  · exact ⟨.more rfl (.more rfl (.nil _)), .more rfl (.more rfl (.nil _))⟩

/-- A byte that is no part of the mark is read as it is without one. -/
theorem feed_unsigned (h : ¬ kept ++ [b] <+: utf8Mark) :
    feed ⟨.utf8Start, kept⟩ b = feed ⟨.utf8, kept⟩ b := by
  have hne : kept ++ [b] ≠ utf8Mark := by
    intro he
    exact h (he ▸ List.prefix_refl _)
  rw [← List.isPrefixOf_iff_prefix] at h
  simp only [feed, Mode.read, Mode.readUtf8Start, if_neg hne, if_neg h]

/-- Behind a beginning of the mark that something else follows, all is read as it is without. -/
theorem reads_unsigned_iff {rest : List UInt8} (hk : kept ∈ marksBegun)
    (h : ¬ kept ++ [b] <+: utf8Mark) : (start utf8Signed).Reads (kept ++ b :: rest) cs d ↔
      Reads ⟨.utf8, []⟩ (kept ++ b :: rest) cs d := by
  obtain ⟨hs, hu⟩ := reads_marksBegun hk
  have hf := feed_unsigned h
  rw [hs.nil_append_iff, hu.nil_append_iff]
  constructor
  · intro hr
    cases hr with
    | cons hb hr => exact .cons (hf ▸ hb) hr
  · intro hr
    cases hr with
    | cons hb hr => exact .cons (hf ▸ hb) hr

theorem mark_of_ofMark? {a : UInt8} {order : ByteOrder}
    (h : ByteOrder.ofMark? a b = some order) : order.mark = [a, b] := by
  unfold ByteOrder.ofMark? at h
  split at h
  · next hab =>
    cases h
    rw [hab.1, hab.2]
    rfl
  · split at h
    · next hab =>
      cases h
      rw [hab.1, hab.2]
      rfl
    · cases h

/-- No character is completed where UTF-16 goes on without a byte order mark. -/
theorem feed_unmarked {a : UInt8} {rest : List UInt8}
    (hm : ∀ order : ByteOrder, ¬ order.mark <+: a :: (kept ++ b :: rest))
    (hf : feed ⟨.utf16Start, a :: kept⟩ b = (.ok cs, d)) :
    cs = [] ∧ d = ⟨.utf16Start, a :: (kept ++ [b])⟩ := by
  have hread : (Mode.readUtf16Start (a :: kept) b).1 = .utf16Start ∧
      ∀ cs, (Mode.readUtf16Start (a :: kept) b).2 ≠ .ok (some cs) := by
    unfold Mode.readUtf16Start
    split
    · next order hk ho =>
      obtain ⟨rfl, rfl⟩ := List.cons.inj hk
      exact absurd ⟨rest, by rw [mark_of_ofMark? ho]; rfl⟩ (hm order)
    · split
      · exact ⟨rfl, by simp⟩
      · next hr =>
        refine ⟨rfl, ?_⟩
        intro cs
        cases hu : Utf16.read .littleEndian (a :: kept) b with
        | chars cs => exact absurd hu (hr cs)
        | incomplete | malformed m => simp [Mode.outcome]
  unfold feed at hf
  split at hf
  · next mode cs' h =>
    change Mode.readUtf16Start (a :: kept) b = _ at h
    rw [h] at hread
    exact absurd rfl (hread.2 cs')
  · next mode h =>
    change Mode.readUtf16Start (a :: kept) b = _ at h
    rw [h] at hread
    cases hf
    exact ⟨rfl, congrArg (Decoder.mk · _) hread.1⟩
  · cases hf

/-- UTF-16 without a byte order mark is missed at the end, if it was not refused before. -/
theorem finish_unmarked {a : UInt8} (hm : ∀ order : ByteOrder, ¬ order.mark <+: a :: (kept ++ bs))
    (hr : Reads ⟨.utf16Start, a :: kept⟩ bs cs d) : d.finish ≠ none := by
  generalize hd : (⟨.utf16Start, a :: kept⟩ : Decoder) = d₀ at hr
  induction hr generalizing kept with
  | nil =>
    subst hd
    obtain ⟨m, hf⟩ := Utf16.exists_finish .littleEndian (List.cons_ne_nil a kept)
    simp [finish, Mode.finish, hf]
  | cons hf _ ih =>
    subst hd
    obtain ⟨-, rfl⟩ := feed_unmarked hm hf
    exact ih (by simpa using hm) rfl

end Decoder

/-! ### Accepted bytes -/

/-- The bytes are accepted in the encoding, and give the text. Besides the bytes of a text there are
those of UTF-8 without the mark that may stand in front of it, and of UTF-16 that has neither a mark
nor a text, and a mark in UTF-8 that breaks off, which is missed. -/
inductive Accepts : Encoding → List Char → List UInt8 → Prop where
  | encoded {e : Encoding} {cs : List Char} {bytes : List UInt8} : Encodes e cs bytes →
      Accepts e cs bytes
  | unsigned {cs : List Char} : ¬ utf8Mark <+: cs.flatMap String.utf8EncodeChar →
      Accepts .utf8Signed cs (cs.flatMap String.utf8EncodeChar)
  | unmarked : Accepts .utf16 [] []
  | brokenOff {bytes : List UInt8} : bytes = [0xef] ∨ bytes = [0xef, 0xbb] →
      Accepts .utf8Signed [] bytes

namespace Decoder

variable {bs : List UInt8} {cs : List Char} {d : Decoder}

theorem not_utf8Mark_prefix {kept rest : List UInt8} {b : UInt8} (hk : kept ∈ marksBegun)
    (h : ¬ kept ++ [b] <+: utf8Mark) : ¬ utf8Mark <+: kept ++ b :: rest := by
  intro hp
  have short : ∀ kept ∈ marksBegun, kept.length + 1 ≤ utf8Mark.length := by decide
  have hle : (kept ++ [b]).length ≤ utf8Mark.length := by simpa using short kept hk
  exact h (List.prefix_of_prefix_length_le ⟨rest, by simp⟩ hp hle)

/-- UTF-8 in front of which a mark may stand. -/
theorem accepts_of_reads_utf8Signed (hr : (start utf8Signed).Reads bs cs d)
    (hf : d.finish = none) : Accepts .utf8Signed cs bs := by
  rcases exists_markFront bs with hk | ⟨rest, rfl⟩ | ⟨kept, hk, b, rest, rfl, hb⟩
  · obtain ⟨rfl, -⟩ := (reads_marksBegun hk).1.unique hr
    simp only [marksBegun, List.mem_cons, List.not_mem_nil, or_false] at hk
    rcases hk with rfl | hk
    · have hn : ¬ utf8Mark <+: ([] : List Char).flatMap String.utf8EncodeChar := by decide
      exact .unsigned hn
    · exact .brokenOff hk
  · obtain ⟨-, rfl⟩ := Utf8.spells.eq_flatMap (reads_utf8Mark.nil_append_iff.1 hr) hf
    exact .encoded (.utf8Signed cs)
  · have hn : ¬ utf8Mark <+: kept ++ b :: rest := not_utf8Mark_prefix hk hb
    obtain ⟨-, hbs⟩ := Utf8.spells.eq_flatMap ((reads_unsigned_iff hk hb).1 hr) hf
    rw [hbs] at hn ⊢
    exact .unsigned hn

/-- UTF-16 in front of which a mark has to stand. -/
theorem accepts_of_reads_utf16 (hr : (start utf16).Reads bs cs d) (hf : d.finish = none) :
    Accepts .utf16 cs bs := by
  cases hr with
  | nil => exact .unmarked
  | @cons _ _ _ a bs cs ds ha hr =>
    have hstart : (start utf16).feed a = (.ok [], ⟨.utf16Start, [a]⟩) := feed_nil a
    rw [hstart] at ha
    cases ha
    by_cases hm : ∃ order : ByteOrder, order.mark <+: a :: bs
    · obtain ⟨order, rest, hbs⟩ := hm
      have hall : (start utf16).Reads (order.mark ++ rest) ds d := by
        rw [hbs]
        exact .more hstart hr
      obtain ⟨-, rfl⟩ :=
        (Utf16.spells order).eq_flatMap ((reads_mark order).nil_append_iff.1 hall) hf
      rw [← hbs]
      exact .encoded (.utf16 order ds)
    · have hn : d.finish ≠ none := finish_unmarked (by simpa using hm) hr
      exact absurd hf hn

/-- **What is read to its end is accepted.** -/
theorem accepts_of_reads {e : Encoding} (hw : e ≠ .windows1252) (hb : e ≠ .big5hkscs)
    (hr : (start e).Reads bs cs d) (hf : d.finish = none) : Accepts e cs bs := by
  have single : cs.flatMap (fun c => [byteOf c]) = cs.map byteOf := List.map_eq_flatMap.symm
  cases e with
  | utf8 =>
    obtain ⟨-, rfl⟩ := Utf8.spells.eq_flatMap hr hf
    exact .encoded (.utf8 cs)
  | utf8Signed => exact accepts_of_reads_utf8Signed hr hf
  | ascii =>
    obtain ⟨hcs, rfl⟩ := Ascii.spells.eq_flatMap hr hf
    rw [single]
    exact .encoded (.ascii hcs)
  | latin1 =>
    obtain ⟨hcs, rfl⟩ := Latin1.spells.eq_flatMap hr hf
    rw [single]
    exact .encoded (.latin1 hcs)
  | windows1252 => exact absurd rfl hw
  | utf16 => exact accepts_of_reads_utf16 hr hf
  | utf16LittleEndian =>
    obtain ⟨-, rfl⟩ := (Utf16.spells .littleEndian).eq_flatMap hr hf
    exact .encoded (.utf16LittleEndian cs)
  | utf16BigEndian =>
    obtain ⟨-, rfl⟩ := (Utf16.spells .bigEndian).eq_flatMap hr hf
    exact .encoded (.utf16BigEndian cs)
  | big5hkscs => exact absurd rfl hb
  | undefined =>
    -- neither a byte nor the end is taken
    cases hr with
    | nil => cases hf
    | cons ha _ => cases ha

end Decoder

/-- **What is accepted is read to its end.** -/
theorem Accepts.reads {e : Encoding} {cs : List Char} {bs : List UInt8} (h : Accepts e cs bs) :
    ∃ d, (Decoder.start e).Reads bs cs d ∧ d.finish = none := by
  cases h with
  | encoded h => exact h.reads
  | unsigned hm =>
    have hu := Utf8.reads_text cs
    rcases Decoder.exists_markFront (cs.flatMap String.utf8EncodeChar) with
      hk | ⟨rest, hbs⟩ | ⟨kept, hk, b, rest, hbs, hb⟩
    · -- no character is spelled by a beginning of the mark
      obtain ⟨hs, hk⟩ := Decoder.reads_marksBegun hk
      obtain ⟨rfl, -⟩ := hk.unique hu
      exact ⟨_, hs, rfl⟩
    · exact absurd ⟨rest, hbs.symm⟩ hm
    · rw [hbs] at hu ⊢
      exact ⟨_, (Decoder.reads_unsigned_iff hk hb).2 hu, rfl⟩
  | unmarked => exact ⟨_, .nil _, rfl⟩
  | brokenOff hbs =>
    have hk : bs ∈ Decoder.marksBegun := List.mem_cons_of_mem _ (by simpa using hbs)
    exact ⟨_, (Decoder.reads_marksBegun hk).1, rfl⟩

end KayLexer.Encoding
