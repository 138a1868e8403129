import KayLexer.Proofs.Scanner.Consumption
import KayLexer.Proofs.Scanner.Reading
import KayLexer.Proofs.Scanner.Undecodable
import KayLexer.Proofs.Source.Spending

/-!
How often a scanner reads its stream. A scanner reads one character beyond the token that it gives
out, and the stream up to the last byte of that character. Main statement: the number of reads
behind each token of a text in UTF-8, whatever took the tokens before it.
-/

namespace KayLexer

open Encoding (utf8Bytes utf8Bytes_append)
open Position (start)

namespace Scanner

variable {s s' : Scanner} {text : List Char}

/-- How often the stream of the scanner was read. -/
def streamReads? (s : Scanner) : Option Nat := (s.source.bind Source.stream?).map ByteStream.reads

theorem streamReads?_of_bytes {b : ByteSource} (h : s.source = some (.bytes b)) :
    s.streamReads? = some b.stream.reads := by
  rw [streamReads?, h]
  rfl

/-! ### In a text -/

/-- The stream was read for the first `n` characters of the text, and for one more: for the bytes of
these, or where there is no further character for all bytes, and once more. -/
structure HasReadBehind (s : Scanner) (text : List Char) (n : Nat) : Prop where
  inside : n < text.length → s.streamReads? = some (utf8Bytes (text.take (n + 1))).length
  atEnd : n = text.length → s.streamReads? = some ((utf8Bytes text).length + 1)

/-- What the source of the scanner has read where the scanner sees the last characters of a text of
`total` bytes: all but those behind the lookahead, and at the end once more. -/
def HasRead (s : Scanner) (total : Nat) : List Char → Prop
  | [] => s.streamReads? = some (total + 1)
  | _ :: cs => ∃ b, s.source = some (.bytes b) ∧ b.Ahead total cs

/-- A step of a scanner that is not at its end yet. -/
theorem hasRead_advance {b : ByteSource} {total : Nat} {cs : List Char} (he : s.atEnd = false)
    (hs : s.source = some (.bytes b)) (hb : b.Ahead total cs) : s.advance.2.HasRead total cs := by
  have hsource : s.advance.2.source = some (.bytes b.read.2) := source_advance he hs
  cases cs with
  | nil =>
    rw [HasRead, streamReads?_of_bytes hsource, hb.read_nil.2]
  | cons c cs => exact ⟨b.read.2, hsource, hb.read_cons.2⟩

theorem HasRead.behind {pre cs : List Char} (h : s.HasRead (utf8Bytes (pre ++ cs)).length cs) :
    s.HasReadBehind (pre ++ cs) pre.length := by
  cases cs with
  | nil =>
    rw [List.append_nil] at h ⊢
    exact ⟨fun hlt => absurd hlt (Nat.lt_irrefl _), fun _ => h⟩
  | cons c cs =>
    obtain ⟨b, hs, hb⟩ := h
    have htake : (pre ++ c :: cs).take (pre.length + 1) = pre ++ [c] := by
      have hlen : (pre ++ [c]).length = pre.length + 1 := List.length_append
      rw [List.append_cons, List.take_left' hlen]
    have hspent := hb.spent
    rw [List.append_cons, utf8Bytes_append, List.length_append] at hspent
    refine ⟨fun _ => ?_, by simp⟩
    rw [streamReads?_of_bytes hs, htake, Nat.add_right_cancel hspent]

/-- The scanner has taken its first step into the text: it sees the rest of it, and has read as much
of its stream as that takes. -/
def Amid (text : List Char) (s : Scanner) : Prop := ∃ (e : Ending) (pre cs : List Char),
  text = pre ++ cs ∧ e.failure = none ∧ s.Sees e (start.afterText pre) cs ∧
    s.HasRead (utf8Bytes text).length cs

/-- **A step reads the bytes of one character.** -/
theorem Amid.advance {c : Char} (h : s.Amid text) (hc : s.current = some c) :
    s.advance.2.Amid text := by
  obtain ⟨e, pre, cs, htext, he, hsees, hread⟩ := h
  rw [hsees.current] at hc
  obtain ⟨cs, rfl⟩ : ∃ ds, cs = c :: ds := by
    cases cs with
    | nil => cases hc
    | cons d ds =>
      cases hc
      exact ⟨ds, rfl⟩
  obtain ⟨b, hs, hb⟩ := hread
  have hnext := hasRead_advance hsees.1 hs hb
  obtain ⟨s', ha, hsees'⟩ := hsees.advance
  rw [ha] at hnext ⊢
  refine ⟨e, pre ++ [c], cs, ?_, he, ?_, hnext⟩
  · rw [htext, List.append_cons]
  · rw [Position.afterText_append]
    exact hsees'

/-- Where the scanner stands tells how much it has read. -/
theorem Amid.hasReadBehind {e : Ending} {pre cs : List Char} (h : s.Amid (pre ++ cs))
    (hs : s.Sees e (start.afterText pre) cs) : s.HasReadBehind (pre ++ cs) pre.length := by
  obtain ⟨e', pre', cs', htext, -, hs', hread⟩ := h
  have hpos : start.afterText pre = start.afterText pre' := hs.position.symm.trans hs'.position
  obtain ⟨rfl, rfl⟩ := Position.append_inj htext hpos
  exact hread.behind

/-! ### Tokens -/

/-- **The reads behind a token.** -/
theorem Amid.nextToken (h : s.Amid text) : ∃ t s', s.nextToken = (.ok t, s') ∧
    (t.isEndOfFile = false → t.StandsIn text ∧ s'.HasReadBehind text (t.stop text)) ∧
    (t.isEndOfFile = true → s'.atEnd = true ∧ s'.HasReadBehind text text.length) := by
  have hbehind : s.nextToken.2.Amid text :=
    s.call_nextToken.invariant (fun hc hs => hs.advance hc) h
  obtain ⟨e, pre, cs, rfl, he, hsees, -⟩ := h
  obtain ⟨ts, hl⟩ := exists_lexed (start.afterText pre) cs
  generalize hp : start.afterText pre = p at hl
  cases hl with
  | trail ht =>
    subst hp
    obtain ⟨s', hn, hsees'⟩ := hsees.nextToken_trail ht he
    rw [hn] at hbehind
    refine ⟨_, s', hn, nofun, fun _ => ⟨hsees'.1, ?_⟩⟩
    rw [← Position.afterText_append] at hsees'
    have hread : s'.HasReadBehind ((pre ++ cs) ++ []) (pre ++ cs).length :=
      Amid.hasReadBehind (by rwa [List.append_nil]) hsees'
    rwa [List.append_nil] at hread
  | @token _ g u rest k ts hg hu _ =>
    subst hp
    obtain ⟨s', hn, hsees'⟩ := hsees.nextToken_lexeme hg hu (Or.inr he)
    rw [hn] at hbehind
    have hk : (tokenBehind pre g u k).isEndOfFile = false := hu.lexeme.not_isEndOfFile _ _
    have hstop := stop_tokenBehind pre g u rest k
    have hsplit : pre ++ (g ++ (u ++ rest)) = (pre ++ (g ++ u)) ++ rest := by simp
    have hlen : pre.length + g.length + u.length = (pre ++ (g ++ u)).length := by
      simp [Nat.add_assoc]
    refine ⟨tokenBehind pre g u k, s', hn, fun _ => ⟨?_, ?_⟩, ?_⟩
    · exact standsIn_tokenBehind pre g u rest k hu.lexeme.ne_nil
    · rw [← Position.afterText_append] at hsees'
      rw [hstop, hlen, hsplit]
      rw [hsplit] at hbehind
      exact hbehind.hasReadBehind hsees'
    · intro ht
      rw [hk] at ht
      cases ht

/-! ### From the beginning on -/

/-- The scanner has not taken a step yet, and the source has the text to give. -/
def Begins (text : List Char) (s : Scanner) : Prop := ∃ b : ByteSource, s.Fresh (.bytes b) ∧
  b.position = start ∧ b.Ahead (utf8Bytes text).length text

theorem Begins.advance (h : s.Begins text) : ∃ s', s.advance = (.ok (), s') ∧ s'.Amid text := by
  obtain ⟨b, hfresh, hp, hb⟩ := h
  obtain ⟨last, hd, hlast⟩ := hb.holds.delivers
  obtain ⟨last', hread, -⟩ := hlast.read_end rfl
  have hlast : (Source.bytes last).read.1 = .ok none := by rw [Source.read, hread]
  obtain ⟨e, s', ha, hs', he, -⟩ := advance_of_exhausted hfresh.atEnd hfresh.source hd hlast
  have hnext := hasRead_advance hfresh.atEnd hfresh.source hb
  rw [ha] at hnext
  refine ⟨s', ha, e, [], text, rfl, he, ?_, hnext⟩
  rw [← hp]
  exact hs'

/-- The scanner is at the beginning of the text, or behind it. -/
def Scans (text : List Char) (s : Scanner) : Prop := s.Begins text ∨ s.Amid text

theorem Scans.advance {c : Char} (h : s.Scans text) (hc : s.current = some c) :
    s.advance.2.Scans text := by
  rcases h with h | h
  · obtain ⟨s', ha, hs'⟩ := h.advance
    rw [ha]
    exact Or.inr hs'
  · exact Or.inr (h.advance hc)

/-- The next token is that of a scanner in the middle of the text. -/
theorem Scans.exists_amid (h : s.Scans text) :
    ∃ s' : Scanner, s.nextToken = s'.nextToken ∧ s'.Amid text := by
  rcases h with h | h
  · obtain ⟨s', ha, hs'⟩ := h.advance
    obtain ⟨b, hfresh, -⟩ := h
    exact ⟨s', hfresh.nextToken ha, hs'⟩
  · exact ⟨s, rfl, h⟩

theorem streamReads?_close (s : Scanner) : s.close.streamReads? = s.streamReads? := by
  rw [streamReads?, streamReads?, close]
  cases s.source with
  | none => rfl
  | some source => cases source <;> rfl

end Scanner

namespace Session

/-- Behind its end a scanner does not read any more, if nobody else does. -/
theorem streamReads?_after {s : Session} {n : Option Nat} (he : s.scanner.atEnd = true)
    (hn : s.scanner.streamReads? = n) {ys : List SessionStep} (hys : .readChar ∉ ys) :
    (s.after ys).scanner.streamReads? = n := by
  refine (after_unshared (P := fun t => t.atEnd = true ∧ t.streamReads? = n) ?_ ?_ hys ⟨he, hn⟩).2
  · rintro t c hc ⟨ht, -⟩
    rw [Scanner.current_of_atEnd ht] at hc
    cases hc
  · rintro t ⟨ht, hreads⟩
    exact ⟨ht, t.streamReads?_close.trans hreads⟩

theorem scans_after (text : List Char) (medium : Medium) (path : Option SourcePath)
    {xs : List SessionStep} (hxs : ∀ x ∈ xs, x.takesTokens = true) :
    ((onStream (.ofEvents medium ((utf8Bytes text).map .byte)) path .utf8).after
      xs).scanner.Scans text := by
  refine after_of_step (Q := fun x => x.takesTokens = true) ?_ hxs ?_
  · intro s x hx hs
    have hcall := s.call_step (x := x) (by rintro rfl; cases hx) (by rintro rfl; cases hx)
      (by rintro rfl; cases hx)
    exact hcall.invariant (fun hc ht => ht.advance hc) hs
  · exact Or.inl ⟨_, Scanner.fresh_ofSource _, rfl, ByteSource.ahead_ofStream medium text path⟩

/-- **The stream is read no further than needed.** Behind any steps that take tokens, a scanner of a
text in UTF-8 gives the next token of the text. If that ends in front of a character, the stream was
read for the bytes up to that character and no more; if it ends with the text, for all bytes and
once more; and so it was where the end token is given out, from when on it is never read again. -/
theorem nextToken_streamReads (text : String) (medium : Medium) (path : Option SourcePath)
    {xs : List SessionStep} (hxs : ∀ x ∈ xs, x.takesTokens = true) :
    let bytes := utf8Bytes text.toList
    let s := (onStream (.ofEvents medium (bytes.map .byte)) path .utf8).after xs
    ∃ t s', s.scanner.nextToken = (.ok t, s') ∧
      (t.isEndOfFile = false → t.StandsIn text.toList ∧
        s'.HasReadBehind text.toList (t.stop text.toList)) ∧
      (t.isEndOfFile = true → ∀ ys, .readChar ∉ ys →
        (after ⟨s', s.iterations⟩ ys).scanner.streamReads? = some (bytes.length + 1)) := by
  intro bytes s
  obtain ⟨m, hm, hamid⟩ := (scans_after text.toList medium path hxs).exists_amid
  obtain ⟨t, s', hn, htoken, hend⟩ := hamid.nextToken
  refine ⟨t, s', hm.trans hn, htoken, ?_⟩
  intro ht ys hys
  obtain ⟨he, hreads⟩ := hend ht
  exact streamReads?_after he (hreads.atEnd rfl) hys

/-- A call and an iteration have taken a token each. Behind the next one, of two wide characters,
the end of the line is read too, and the character behind that is not. -/
theorem nextToken_streamReads_wide :
    let xs : List SessionStep := [.next, .resume 0]
    let bytes := utf8Bytes "x := é€\n𝄞".toList
    let s := (onStream (.ofEvents .device (bytes.map .byte)) none .utf8).after xs
    (∀ x ∈ xs, x.takesTokens = true) ∧ bytes.length = 15 ∧
      ∃ s', s.scanner.nextToken = (.ok ⟨.unrecognized, "é€", ⟨1, 6⟩⟩, s') ∧
        s'.streamReads? = some 11 := by
  intro xs bytes s
  have hxs : ∀ x ∈ xs, x.takesTokens = true := by decide
  have hword : s.scanner.nextToken.1.toOption = some ⟨.unrecognized, "é€", ⟨1, 6⟩⟩ := by
    decide +kernel
  have hstop : Token.stop ⟨.unrecognized, "é€", ⟨1, 6⟩⟩ "x := é€\n𝄞".toList = 7 := by decide
  obtain ⟨t, s', hn, htoken, -⟩ := nextToken_streamReads "x := é€\n𝄞" .device none hxs
  have hn : s.scanner.nextToken = (.ok t, s') := hn
  rw [hn] at hword
  obtain rfl := Option.some.inj hword
  have hreads := (htoken rfl).2.inside
  rw [hstop] at hreads
  exact ⟨hxs, by decide, s', hn, hreads (by decide)⟩

end Session

end KayLexer
