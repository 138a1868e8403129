import KayLexer.Draft
import KayLexer.Proofs.Language

/-!
Drafts and lexemes. A draft that has begun a token holds a lexeme, and where a longer lexeme
begins with what the draft holds, the draft takes the next character of it. So a draft grows along
every lexeme, and stops only where no longer lexeme is possible or where a comment begins.
-/

namespace KayLexer.Draft

open CharClass

/-! ### What a draft holds -/

/-- A fixed lexeme that no other one begins with. -/
def IsFinal (u : List Char) : Prop := u ∈ Lexeme.fixed ∧ ∀ v ∈ Lexeme.fixed, u <+: v → v = u

instance (u : List Char) : Decidable (IsFinal u) :=
  inferInstanceAs (Decidable (_ ∧ _))

/-- The draft has taken the text `u` since the last gap, and it may be the end of a token. -/
def Holds : Draft → List Char → Prop
  | gap, _ => False
  | comment, _ => False
  | slash, u => u = ['/']
  | word text, u => text.toList = u ∧ IsWord u
  | number text, u => text.toList = u ∧ IsNumber u
  | extensible c, u => u = [c] ∧ (c = ':' ∨ takesEquals c = true)
  | half c, u => u = [c] ∧ isDoubledOnly c = true
  | whole kind text, u => text.toList = u ∧ Lexeme kind u ∧ IsFinal u
  | unrecognized text, u => text.toList = u ∧ IsStray u

theorem wordKind_lexeme {text : String} (h : IsWord text.toList) :
    Lexeme (wordKind text) text.toList := by
  unfold wordKind
  split
  · exact .keyword h (by rwa [String.ofList_toList])
  · split
    · exact .boolean h (by rwa [String.ofList_toList])
    · exact .identifier h (by rwa [String.ofList_toList]) (by rwa [String.ofList_toList])

/-- **What a draft holds is a lexeme, and the draft finishes as it.** -/
theorem finish_of_holds {d : Draft} {u : List Char} (h : d.Holds u) :
    ∃ k, d.finish = some (k, String.ofList u) ∧ Lexeme k u := by
  cases d with
  | gap => exact h.elim
  | comment => exact h.elim
  | slash =>
    subst h
    exact ⟨.operator, rfl, .operator (by decide)⟩
  | word text =>
    obtain ⟨rfl, hu⟩ := h
    exact ⟨wordKind text, by rw [String.ofList_toList]; rfl, wordKind_lexeme hu⟩
  | number text =>
    obtain ⟨rfl, hu⟩ := h
    exact ⟨.literal, by rw [String.ofList_toList]; rfl, .number hu⟩
  | extensible c =>
    obtain ⟨rfl, hc⟩ := h
    refine ⟨.operator, by rw [String.singleton_eq_ofList.symm]; rfl, .operator ?_⟩
    simp only [takesEquals, List.mem_cons, List.not_mem_nil, or_false, decide_eq_true_eq] at hc
    rcases hc with rfl | rfl | rfl | rfl | rfl <;> decide
  | half c =>
    obtain ⟨rfl, hc⟩ := h
    refine ⟨.unrecognized, by rw [String.singleton_eq_ofList.symm]; rfl, .half ?_⟩
    simp only [isDoubledOnly, List.mem_cons, List.not_mem_nil, or_false, decide_eq_true_eq] at hc
    rcases hc with rfl | rfl <;> decide
  | whole kind text =>
    obtain ⟨rfl, hl, -⟩ := h
    exact ⟨kind, by rw [String.ofList_toList]; rfl, hl⟩
  | unrecognized text =>
    obtain ⟨rfl, hu⟩ := h
    exact ⟨.unrecognized, by rw [String.ofList_toList]; rfl, .stray hu⟩

/-- A draft that holds a text is not between tokens. -/
theorem isGap_of_holds {d : Draft} {u : List Char} (h : d.Holds u) : d.isGap = false := by
  cases d with
  | gap => exact h.elim
  | _ => rfl

/-! ### One character taken -/

/-- Where a token can begin, every character but whitespace begins one. -/
theorem holds_opening {c : Char} (h : isWhitespace c = false) : (opening c).Holds [c] := by
  have one : (String.singleton c).toList = [c] :=
    String.toList_singleton _
  unfold opening
  rw [if_neg (by simp [h])]
  split
  · next hc => rw [hc]; rfl
  split
  · next hc => exact ⟨rfl, by simpa using hc⟩
  split
  · next hc => exact ⟨rfl, hc⟩
  split
  · next hs he hd ho =>
    have closed : ∀ d ∈ ['+', '-', '*', '/', '%', '=', '<', '>', '!', '&', '|'], d ≠ '/' →
        takesEquals d = false → isDoubledOnly d = false →
        [d] ∈ Lexeme.operators ∧ IsFinal [d] := forall_mem_of_all (by decide)
    rw [Bool.or_eq_true, not_or] at he
    obtain ⟨hl, hf⟩ := closed c (by simpa [isOperatorStart] using ho) hs (by simpa using he.2)
      (by simpa using hd)
    exact ⟨one, .operator hl, hf⟩
  split
  · next hs =>
    have closed : ∀ d ∈ ['(', ')', '\x7b', '\x7d', ';', ','],
        [d] ∈ Lexeme.separators ∧ IsFinal [d] := forall_mem_of_all (by decide)
    obtain ⟨hl, hf⟩ := closed c (by simpa [isSeparator] using hs)
    exact ⟨one, .separator hl, hf⟩
  split
  · next hl => exact ⟨one, hl, by simp⟩
  split
  · next hn => exact ⟨one, by simp, by simpa [isDigit] using hn⟩
  · next hs he hd ho hp hl hn =>
    refine ⟨one, ⟨?_, ?_, ?_⟩, by simp⟩
    · exact isEndOfToken_eq_false.1 (by simp [isEndOfToken, h, ho, hp])
    · simpa [Char.isAlphanum, isLetter, isDigit] using And.intro hl hn
    · rintro rfl
      exact he (by simp)

/-- A draft that takes a character holds it, or a comment begins. -/
theorem holds_extend {d d' : Draft} {u : List Char} {c : Char} (h : d.Holds u)
    (he : d.extend c = some d') : d'.Holds (u ++ [c]) ∨ u = ['/'] ∧ c = '/' := by
  cases d with
  | gap => exact h.elim
  | comment => exact h.elim
  | slash =>
    simp only [extend] at he
    split at he
    · next hc => exact Or.inr ⟨h, hc⟩
    · cases he
  | word text =>
    obtain ⟨rfl, hu⟩ := h
    simp only [extend] at he
    split at he
    · next hc =>
      cases he
      exact Or.inl ⟨String.toList_push _, hu.append hc⟩
    · cases he
  | number text =>
    obtain ⟨rfl, hu⟩ := h
    simp only [extend] at he
    split at he
    · next hc =>
      cases he
      exact Or.inl ⟨String.toList_push _, hu.append hc⟩
    · cases he
  | extensible e =>
    obtain ⟨rfl, hd⟩ := h
    simp only [extend] at he
    split at he
    · next hc =>
      cases he
      subst hc
      have closed : ∀ d ∈ [':', '<', '>', '=', '!'],
          [d, '='] ∈ Lexeme.operators ∧ IsFinal [d, '='] := forall_mem_of_all (by decide)
      obtain ⟨hl, hf⟩ := closed e (by simpa [takesEquals] using hd)
      exact Or.inl ⟨String.toList_ofList, .operator hl, hf⟩
    · cases he
  | half e =>
    obtain ⟨rfl, hd⟩ := h
    simp only [extend] at he
    split at he
    · next hc =>
      cases he
      subst hc
      have closed : ∀ d ∈ ['&', '|'], [d, d] ∈ Lexeme.operators ∧ IsFinal [d, d] :=
        forall_mem_of_all (by decide)
      obtain ⟨hl, hf⟩ := closed c (by simpa [isDoubledOnly] using hd)
      exact Or.inl ⟨String.toList_ofList, .operator hl, hf⟩
    · cases he
  | whole kind text => cases he
  | unrecognized text =>
    obtain ⟨rfl, hu⟩ := h
    simp only [extend] at he
    split at he
    · cases he
    · next hc =>
      cases he
      exact Or.inl ⟨String.toList_push _, hu.append (by simpa using hc)⟩

/-- **Where a longer lexeme begins with what a draft holds, the draft takes its next character.** -/
theorem extend_of_lexeme {d : Draft} {u v : List Char} {c : Char} {k : TokenKind} (h : d.Holds u)
    (hl : Lexeme k (u ++ c :: v)) : ∃ d', d.extend c = some d' := by
  have hc : c ∈ u ++ c :: v := by simp
  cases d with
  | gap => exact h.elim
  | comment => exact h.elim
  | slash =>
    cases h
    exact absurd (hl.eq_slash (by simp)) (by simp)
  | word text =>
    obtain ⟨rfl, hu⟩ := h
    cases ht : text.toList with
    | nil => rw [ht] at hu; exact hu.elim
    | cons a cs =>
      rw [ht] at hu hl hc
      exact ⟨_, if_pos ((hl.isWord hu.1).isAlphanum c hc)⟩
  | number text =>
    obtain ⟨rfl, hu⟩ := h
    cases ht : text.toList with
    | nil => exact absurd ht hu.1
    | cons a cs =>
      rw [ht] at hu hl hc
      exact ⟨_, if_pos ((hl.isNumber (hu.2 a List.mem_cons_self)).2 c hc)⟩
  | extensible e =>
    obtain ⟨rfl, he⟩ := h
    have closed : ∀ d ∈ [':', '<', '>', '=', '!'], (isEndOfToken d = true ∨ d = ':') ∧
        ∀ w ∈ Lexeme.fixed, [d] <+: w → w.tail.headD '=' = '=' := forall_mem_of_all (by decide)
    obtain ⟨hd, hw⟩ := closed e (by simpa [takesEquals] using he)
    have hn : c = '=' := hw _ (hl.mem_fixed hd) (List.prefix_append _ _)
    exact ⟨_, if_pos hn⟩
  | half e =>
    obtain ⟨rfl, he⟩ := h
    have closed : ∀ d ∈ ['&', '|'], isEndOfToken d = true ∧
        ∀ w ∈ Lexeme.fixed, [d] <+: w → w.tail.headD d = d := forall_mem_of_all (by decide)
    obtain ⟨hd, hw⟩ := closed e (by simpa [isDoubledOnly] using he)
    have hn : c = e := hw _ (hl.mem_fixed (Or.inl hd)) (List.prefix_append _ _)
    exact ⟨_, if_pos hn⟩
  | whole kind text =>
    obtain ⟨rfl, -, hu, hf⟩ := h
    cases ht : text.toList with
    | nil => rw [ht] at hu; exact absurd hu (by decide)
    | cons a cs =>
      rw [ht] at hu hf hl
      have := hf _ (hl.mem_fixed (isEndOfToken_of_mem_fixed hu)) (List.prefix_append _ _)
      simp at this
  | unrecognized text =>
    obtain ⟨rfl, hu⟩ := h
    cases ht : text.toList with
    | nil => rw [ht] at hu; exact hu.elim
    | cons a cs =>
      rw [ht] at hu hl hc
      obtain ⟨⟨he, ha, hn⟩, -⟩ := hu
      have hs := hl.isStray ha (isEndOfToken_eq_false.2 he) hn
      exact ⟨_, if_neg (by simp [hs.isEndOfToken c hc])⟩

/-! ### Many characters taken -/

/-- What the draft becomes by taking all of a text, if it can. -/
def run (d : Draft) (cs : List Char) : Option Draft := cs.foldlM extend d

theorem run_cons (d : Draft) (c : Char) (cs : List Char) :
    d.run (c :: cs) = (d.extend c).bind (·.run cs) := List.foldlM_cons

theorem run_append (d : Draft) (cs ds : List Char) :
    d.run (cs ++ ds) = (d.run cs).bind (·.run ds) := List.foldlM_append

/-- The body of a comment is taken as long as its line lasts. -/
theorem run_comment {body : List Char} (h : ∀ c ∈ body, isEndOfLine c = false) :
    comment.run body = some comment := by
  induction body with
  | nil => rfl
  | cons c body ih =>
    obtain ⟨hc, hbody⟩ := List.forall_mem_cons.1 h
    have he : comment.extend c = some comment := by simp [extend, hc]
    rw [run_cons, he]
    exact ih hbody

/-- The draft becomes `d'` by taking the text `u`, and is between tokens nowhere on the way. -/
inductive Grows : Draft → List Char → Draft → Prop where
  | refl (d : Draft) : Grows d [] d
  | step {d d₁ d' : Draft} {c : Char} {u : List Char} : d.isGap = false → d.extend c = some d₁ →
      Grows d₁ u d' → Grows d (c :: u) d'

theorem Grows.run {d d' : Draft} {u : List Char} (h : Grows d u d') : d.run u = some d' := by
  induction h with
  | refl => rfl
  | step _ he _ ih =>
    rw [run_cons, he]
    exact ih

/-- **A draft grows along every lexeme that begins with what it holds.** -/
theorem grows_of_lexeme {d : Draft} {u v : List Char} {k : TokenKind} (h : d.Holds u)
    (hl : Lexeme k (u ++ v)) : ∃ d', Grows d v d' ∧ d'.Holds (u ++ v) := by
  induction v generalizing d u with
  | nil => exact ⟨d, .refl d, by simpa using h⟩
  | cons c v ih =>
    obtain ⟨d₁, he⟩ := extend_of_lexeme h hl
    rcases holds_extend h he with h₁ | ⟨rfl, rfl⟩
    · obtain ⟨d', hg, hd⟩ := ih h₁ (by simpa using hl)
      exact ⟨d', .step (isGap_of_holds h) he hg, by simpa using hd⟩
    · exact absurd (hl.eq_slash (by simp)) (by simp)

/-- A lexeme is taken from where a token can begin, and finished as what it is. -/
theorem opening_of_lexeme {c : Char} {u : List Char} {k : TokenKind} (h : Lexeme k (c :: u)) :
    ∃ d, Grows (opening c) u d ∧ d.Holds (c :: u) ∧
      d.finish = some (k, String.ofList (c :: u)) := by
  have ho := holds_opening (h.isWhitespace c List.mem_cons_self)
  obtain ⟨d, hg, hd⟩ := grows_of_lexeme ho (v := u) (by simpa using h)
  obtain ⟨k', hf, hl⟩ := finish_of_holds hd
  have hk : k' = k := by
    rw [← hl.kindOf_eq, ← h.kindOf_eq]
    rfl
  subst hk
  exact ⟨d, hg, hd, hf⟩

end KayLexer.Draft
