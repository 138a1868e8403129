import KayLexer.CharClass
import KayLexer.Token

/-!
The lexical language of KAY, apart from any scanner: which texts are lexemes, of which kind, and
what each of them can begin with. Main statements: a lexeme has one kind only, and none of its
characters is whitespace.
-/

namespace KayLexer

open CharClass

/-! ### Lexemes -/

/-- A letter, and behind it letters and digits. -/
def IsWord : List Char → Prop
  | [] => False
  | c :: cs => c.isAlpha = true ∧ ∀ d ∈ cs, d.isAlphanum = true

/-- Digits, at least one. -/
def IsNumber (u : List Char) : Prop := u ≠ [] ∧ ∀ c ∈ u, c.isDigit = true

namespace Lexeme

/-- Whitespace, separators, and what begins an operator, but for the colon. -/
def stops : List Char :=
  [' ', '\t', '\r', '\n', '\x0c', '+', '-', '*', '/', '%', '=', '<', '>', '!', '&', '|', '(', ')',
   '\x7b', '\x7d', ';', ',']

def keywords : List String := ["if", "else", "while", "integer", "bool", "main"]

def booleans : List String := ["True", "False"]

def operators : List (List Char) :=
  [['+'], ['-'], ['*'], ['/'], ['%'], ['='], ['<'], ['>'], ['!'], [':'], [':', '='], ['<', '='],
   ['>', '='], ['=', '='], ['!', '='], ['&', '&'], ['|', '|']]

def separators : List (List Char) := [['('], [')'], ['\x7b'], ['\x7d'], [';'], [',']]

/-- Halves of operators that are only valid doubled. -/
def halves : List (List Char) := [['&'], ['|']]

end Lexeme

/-- A character that no other lexeme begins with, and behind it what stops no run. -/
def IsStray : List Char → Prop
  | [] => False
  | c :: cs => (c ∉ Lexeme.stops ∧ c.isAlphanum = false ∧ c ≠ ':') ∧ ∀ d ∈ cs, d ∉ Lexeme.stops

/-- The lexemes of the language with their kinds. -/
inductive Lexeme : TokenKind → List Char → Prop where
  | keyword {u : List Char} : IsWord u → String.ofList u ∈ Lexeme.keywords → Lexeme .keyword u
  | boolean {u : List Char} : IsWord u → String.ofList u ∈ Lexeme.booleans → Lexeme .literal u
  | identifier {u : List Char} : IsWord u → String.ofList u ∉ Lexeme.keywords →
      String.ofList u ∉ Lexeme.booleans → Lexeme .identifier u
  | number {u : List Char} : IsNumber u → Lexeme .literal u
  | operator {u : List Char} : u ∈ Lexeme.operators → Lexeme .operator u
  | separator {u : List Char} : u ∈ Lexeme.separators → Lexeme .separator u
  | half {u : List Char} : u ∈ Lexeme.halves → Lexeme .unrecognized u
  | stray {u : List Char} : IsStray u → Lexeme .unrecognized u

/-! ### Characters of lexemes -/

/-- What is checked of the characters of a list one by one holds of all of them. -/
theorem forall_mem_of_all {p : Char → Prop} [DecidablePred p] {l : List Char}
    (h : l.all (fun d => decide (p d)) = true) : ∀ d ∈ l, p d := by
  simpa using h

theorem isAlphanum_of_isDigit {c : Char} (h : c.isDigit = true) : c.isAlphanum = true := by
  simp [Char.isAlphanum, h]

theorem isAlphanum_of_isAlpha {c : Char} (h : c.isAlpha = true) : c.isAlphanum = true := by
  simp [Char.isAlphanum, h]

/-- The characters that stop a run are those that the scanner takes for the end of a token. -/
theorem isEndOfToken_eq (c : Char) : isEndOfToken c = decide (c ∈ Lexeme.stops) := by
  simp only [isEndOfToken, isWhitespace, isOperatorStart, isSeparator, ← Bool.decide_or,
    ← List.mem_append]
  rfl

theorem isEndOfToken_eq_false {c : Char} : isEndOfToken c = false ↔ c ∉ Lexeme.stops := by
  rw [isEndOfToken_eq, decide_eq_false_iff_not]

theorem isEndOfToken_of_isAlphanum {c : Char} (h : c.isAlphanum = true) :
    isEndOfToken c = false := by
  have closed : ∀ d ∈ Lexeme.stops, d.isAlphanum = false := forall_mem_of_all (by decide)
  rw [isEndOfToken_eq_false]
  intro hc
  rw [closed c hc] at h
  cases h

theorem isWhitespace_of_isEndOfToken {c : Char} (h : isEndOfToken c = false) :
    isWhitespace c = false := by
  simp only [isEndOfToken, Bool.or_eq_false_iff] at h
  exact h.1.1

theorem ne_slash_of_isEndOfToken {c : Char} (h : isEndOfToken c = false) : c ≠ '/' := by
  rintro rfl
  exact absurd h (by decide)

theorem IsWord.isAlphanum {u : List Char} (h : IsWord u) : ∀ c ∈ u, c.isAlphanum = true := by
  cases u with
  | nil => exact h.elim
  | cons d cs =>
    obtain ⟨hd, hcs⟩ := h
    exact List.forall_mem_cons.2 ⟨isAlphanum_of_isAlpha hd, hcs⟩

theorem IsNumber.isAlphanum {u : List Char} (h : IsNumber u) : ∀ c ∈ u, c.isAlphanum = true := by
  intro c hc
  exact isAlphanum_of_isDigit (h.2 c hc)

theorem IsStray.isEndOfToken {u : List Char} (h : IsStray u) :
    ∀ c ∈ u, isEndOfToken c = false := by
  cases u with
  | nil => exact h.elim
  | cons d cs =>
    obtain ⟨⟨hd, -⟩, hcs⟩ := h
    have hstops : ∀ c ∈ d :: cs, c ∉ Lexeme.stops := List.forall_mem_cons.2 ⟨hd, hcs⟩
    intro c hc
    exact isEndOfToken_eq_false.2 (hstops c hc)

theorem IsWord.append {u : List Char} {c : Char} (h : IsWord u)
    (hc : isLetter c || isDigit c) : IsWord (u ++ [c]) := by
  cases u with
  | nil => exact h.elim
  | cons d cs =>
    refine ⟨h.1, List.forall_mem_append.2 ⟨h.2, ?_⟩⟩
    intro e he
    rw [List.mem_singleton.1 he]
    exact hc

theorem IsNumber.append {u : List Char} {c : Char} (h : IsNumber u) (hc : isDigit c) :
    IsNumber (u ++ [c]) := by
  refine ⟨by simp, List.forall_mem_append.2 ⟨h.2, ?_⟩⟩
  intro e he
  rw [List.mem_singleton.1 he]
  exact hc

theorem IsStray.append {u : List Char} {c : Char} (h : IsStray u)
    (hc : CharClass.isEndOfToken c = false) : IsStray (u ++ [c]) := by
  cases u with
  | nil => exact h.elim
  | cons d cs =>
    refine ⟨h.1, List.forall_mem_append.2 ⟨h.2, ?_⟩⟩
    intro e he
    rw [List.mem_singleton.1 he]
    exact isEndOfToken_eq_false.1 hc

/-- The lexemes that are finitely many. -/
def Lexeme.fixed : List (List Char) := operators ++ separators ++ halves

/-- A lexeme is a word, a number, a stray run or one of the fixed texts. -/
theorem Lexeme.shape {k : TokenKind} {u : List Char} (h : Lexeme k u) :
    IsWord u ∨ IsNumber u ∨ IsStray u ∨ u ∈ Lexeme.fixed := by
  cases h with
  | keyword hu | boolean hu | identifier hu => exact Or.inl hu
  | number hu => exact Or.inr (Or.inl hu)
  | stray hu => exact Or.inr (Or.inr (Or.inl hu))
  | operator hu | separator hu | half hu => exact Or.inr (Or.inr (Or.inr (by simp [fixed, hu])))

/-- A lexeme is free of characters that end a token unless it is one of the fixed texts. -/
theorem Lexeme.isEndOfToken {k : TokenKind} {u : List Char} (h : Lexeme k u) :
    (∀ c ∈ u, isEndOfToken c = false) ∨ u ∈ Lexeme.fixed := by
  have alphanum (hu : ∀ c ∈ u, c.isAlphanum = true) :
      ∀ c ∈ u, CharClass.isEndOfToken c = false := by
    intro c hc
    exact isEndOfToken_of_isAlphanum (hu c hc)
  rcases h.shape with hu | hu | hu | hu
  · exact Or.inl (alphanum hu.isAlphanum)
  · exact Or.inl (alphanum hu.isAlphanum)
  · exact Or.inl hu.isEndOfToken
  · exact Or.inr hu

theorem Lexeme.ne_nil {k : TokenKind} {u : List Char} (h : Lexeme k u) : u ≠ [] := by
  rintro rfl
  rcases h.shape with hu | hu | hu | hu
  · exact hu
  · exact hu.1 rfl
  · exact hu
  · exact absurd hu (by decide)

/-- **No character of a lexeme is whitespace.** -/
theorem Lexeme.isWhitespace {k : TokenKind} {u : List Char} (h : Lexeme k u) :
    ∀ c ∈ u, isWhitespace c = false := by
  rcases h.isEndOfToken with hu | hu
  · intro c hc
    exact isWhitespace_of_isEndOfToken (hu c hc)
  · have closed : ∀ u ∈ fixed, u.any CharClass.isWhitespace = false := by decide
    simpa using closed u hu

/-- No lexeme goes over the end of a line. -/
theorem Lexeme.newline_notMem {k : TokenKind} {u : List Char} (h : Lexeme k u) : '\n' ∉ u := by
  intro hm
  exact absurd (h.isWhitespace '\n' hm) (by decide)

/-- A slash is a lexeme of its own. -/
theorem Lexeme.eq_slash {k : TokenKind} {u : List Char} (h : Lexeme k u) (hs : '/' ∈ u) :
    u = ['/'] := by
  rcases h.isEndOfToken with hu | hu
  · exact absurd rfl (ne_slash_of_isEndOfToken (hu '/' hs))
  · have closed : ∀ u ∈ fixed, '/' ∈ u → u = ['/'] := by decide
    exact closed u hu hs

theorem Lexeme.ne_endOfFile {k : TokenKind} {u : List Char} (h : Lexeme k u) :
    k ≠ .endOfFile := by
  cases h <;> exact TokenKind.noConfusion

/-- The token of a lexeme is not the end token. -/
theorem Lexeme.not_isEndOfFile {k : TokenKind} {u : List Char} (h : Lexeme k u) (text : String)
    (p : Position) : Token.isEndOfFile ⟨k, text, p⟩ = false := by
  simp [Token.isEndOfFile, h.ne_endOfFile]

/-! ### What a lexeme begins with -/

theorem isEndOfToken_of_mem_fixed {c : Char} {u : List Char} (h : c :: u ∈ Lexeme.fixed) :
    isEndOfToken c = true ∨ c = ':' := by
  have closed : ∀ v ∈ Lexeme.fixed, isEndOfToken (v.headD ':') = true ∨ v.headD ':' = ':' := by
    decide
  exact closed _ h

theorem isAlphanum_of_mem_fixed {c : Char} {u : List Char} (h : c :: u ∈ Lexeme.fixed) :
    c.isAlphanum = false := by
  have closed : ∀ v ∈ Lexeme.fixed, (v.headD ' ').isAlphanum = false := by decide
  exact closed _ h

theorem isAlpha_iff_toNat {c : Char} : c.isAlpha = true ↔
    'A'.toNat ≤ c.toNat ∧ c.toNat ≤ 'Z'.toNat ∨ 'a'.toNat ≤ c.toNat ∧ c.toNat ≤ 'z'.toNat := by
  show (decide (c.val ≥ 'A'.val ∧ c.val ≤ 'Z'.val) || (c.val ≥ 'a'.val && c.val ≤ 'z'.val)) =
    true ↔ _
  simp only [Bool.or_eq_true, Bool.and_eq_true, decide_eq_true_eq, ge_iff_le,
    UInt32.le_iff_toNat_le, Char.toNat_val]

theorem isAlpha_of_isDigit {c : Char} (h : c.isDigit = true) : c.isAlpha = false := by
  have digits : '9'.toNat < 'A'.toNat := by decide
  have capitals : 'A'.toNat < 'a'.toNat := by decide
  rw [Char.isDigit_iff_toNat] at h
  rw [← Bool.not_eq_true, isAlpha_iff_toNat]
  omega

/-- Only words begin with a letter. -/
theorem Lexeme.isWord {k : TokenKind} {c : Char} {u : List Char} (h : Lexeme k (c :: u))
    (hc : c.isAlpha = true) : IsWord (c :: u) := by
  rcases h.shape with hu | hu | hu | hu
  · exact hu
  · rw [isAlpha_of_isDigit (hu.2 c List.mem_cons_self)] at hc
    cases hc
  · exact absurd (isAlphanum_of_isAlpha hc) (by simp [hu.1.2.1])
  · exact absurd (isAlphanum_of_isAlpha hc) (by simp [isAlphanum_of_mem_fixed hu])

/-- Only numbers begin with a digit. -/
theorem Lexeme.isNumber {k : TokenKind} {c : Char} {u : List Char} (h : Lexeme k (c :: u))
    (hc : c.isDigit = true) : IsNumber (c :: u) := by
  rcases h.shape with hu | hu | hu | hu
  · exact absurd hu.1 (by simp [isAlpha_of_isDigit hc])
  · exact hu
  · exact absurd (isAlphanum_of_isDigit hc) (by simp [hu.1.2.1])
  · exact absurd (isAlphanum_of_isDigit hc) (by simp [isAlphanum_of_mem_fixed hu])

/-- Only the fixed texts begin with a character that ends a token, or with a colon. -/
theorem Lexeme.mem_fixed {k : TokenKind} {c : Char} {u : List Char} (h : Lexeme k (c :: u))
    (hc : CharClass.isEndOfToken c = true ∨ c = ':') : c :: u ∈ fixed := by
  have hn : c.isAlphanum = false := by
    rcases hc with hc | rfl
    · cases ha : c.isAlphanum with
      | false => rfl
      | true => rw [isEndOfToken_of_isAlphanum ha] at hc; cases hc
    · rfl
  rcases h.shape with hu | hu | hu | hu
  · rw [hu.isAlphanum c List.mem_cons_self] at hn
    cases hn
  · rw [hu.isAlphanum c List.mem_cons_self] at hn
    cases hn
  · rcases hc with hc | hc
    · rw [isEndOfToken_eq_false.2 hu.1.1] at hc
      cases hc
    · exact absurd hc hu.1.2.2
  · exact hu

/-- Only stray runs begin with any other character. -/
theorem Lexeme.isStray {k : TokenKind} {c : Char} {u : List Char} (h : Lexeme k (c :: u))
    (ha : c.isAlphanum = false) (he : CharClass.isEndOfToken c = false) (hc : c ≠ ':') :
    IsStray (c :: u) := by
  rcases h.shape with hu | hu | hu | hu
  · rw [hu.isAlphanum c List.mem_cons_self] at ha
    cases ha
  · rw [hu.isAlphanum c List.mem_cons_self] at ha
    cases ha
  · exact hu
  · rcases isEndOfToken_of_mem_fixed hu with h' | h'
    · rw [h'] at he
      cases he
    · exact absurd h' hc

/-! ### The kind of a lexeme -/

/-- The kind of a lexeme, found from its text. -/
def Lexeme.kindOf (u : List Char) : TokenKind :=
  if u ∈ operators then .operator
  else if u ∈ separators then .separator
  else if String.ofList u ∈ keywords then .keyword
  else if String.ofList u ∈ booleans then .literal
  else match u with
    | [] => .unrecognized
    | c :: _ => if c.isAlpha then .identifier else if c.isDigit then .literal else .unrecognized

theorem isAlpha_of_mem_keywords {c : Char} {u : List Char}
    (h : String.ofList (c :: u) ∈ Lexeme.keywords ++ Lexeme.booleans) : c.isAlpha = true := by
  have closed : ∀ s ∈ Lexeme.keywords ++ Lexeme.booleans, (s.toList.headD ' ').isAlpha = true := by
    decide
  simpa using closed _ h

/-- The kind of a text that is none of the fixed ones. -/
theorem Lexeme.kindOf_of_notMem {c : Char} {u : List Char} (h : c :: u ∉ fixed) :
    kindOf (c :: u) = if String.ofList (c :: u) ∈ keywords then .keyword
      else if String.ofList (c :: u) ∈ booleans then .literal
      else if c.isAlpha then .identifier else if c.isDigit then .literal else .unrecognized := by
  have ho : c :: u ∉ operators := by
    intro hm
    exact h (by simp [fixed, hm])
  have hs : c :: u ∉ separators := by
    intro hm
    exact h (by simp [fixed, hm])
  rw [kindOf, if_neg ho, if_neg hs]

/-- The kind of a text that begins like neither a fixed one nor a word. -/
theorem Lexeme.kindOf_of_not_isAlpha {c : Char} {u : List Char} (h : c :: u ∉ fixed)
    (hc : c.isAlpha = false) :
    kindOf (c :: u) = if c.isDigit then .literal else .unrecognized := by
  have hn : String.ofList (c :: u) ∉ keywords ++ booleans := by
    intro hm
    rw [isAlpha_of_mem_keywords hm] at hc
    cases hc
  rw [List.mem_append, not_or] at hn
  rw [kindOf_of_notMem h, if_neg hn.1, if_neg hn.2, if_neg (by simp [hc])]

/-- **A lexeme has one kind only.** -/
theorem Lexeme.kindOf_eq {k : TokenKind} {u : List Char} (h : Lexeme k u) : kindOf u = k := by
  have alphanum {c : Char} {v : List Char} (hc : c.isAlphanum = true) : c :: v ∉ fixed := by
    intro hm
    rw [isAlphanum_of_mem_fixed hm] at hc
    cases hc
  have hne := h.ne_nil
  cases u with
  | nil => exact absurd rfl hne
  | cons c u =>
    cases h with
    | keyword hu hk =>
      rw [kindOf_of_notMem (alphanum (isAlphanum_of_isAlpha hu.1)), if_pos hk]
    | boolean hu hb =>
      have closed : ∀ s ∈ booleans, s ∉ keywords := by decide
      rw [kindOf_of_notMem (alphanum (isAlphanum_of_isAlpha hu.1)), if_neg (closed _ hb),
        if_pos hb]
    | identifier hu hk hb =>
      rw [kindOf_of_notMem (alphanum (isAlphanum_of_isAlpha hu.1)), if_neg hk, if_neg hb,
        if_pos hu.1]
    | number hu =>
      have hd := hu.2 c List.mem_cons_self
      rw [kindOf_of_not_isAlpha (alphanum (isAlphanum_of_isDigit hd)) (isAlpha_of_isDigit hd),
        if_pos hd]
    | operator hu => rw [kindOf, if_pos hu]
    | separator hu =>
      have closed : ∀ v ∈ separators, v ∉ operators := by decide
      rw [kindOf, if_neg (closed _ hu), if_pos hu]
    | half hu =>
      have closed : ∀ v ∈ halves, kindOf v = .unrecognized := by decide
      exact closed _ hu
    | stray hu =>
      obtain ⟨⟨he, ha, hc⟩, -⟩ := hu
      have hf : c :: u ∉ fixed := by
        intro hm
        rcases isEndOfToken_of_mem_fixed hm with h' | h'
        · rw [isEndOfToken_eq_false.2 he] at h'
          cases h'
        · exact hc h'
      simp only [Char.isAlphanum, Bool.or_eq_false_iff] at ha
      rw [kindOf_of_not_isAlpha hf ha.1, if_neg (by simp [ha.2])]

end KayLexer
