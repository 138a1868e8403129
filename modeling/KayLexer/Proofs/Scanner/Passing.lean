import KayLexer.Proofs.Lexing
import KayLexer.Scanner.Tokens

/-!
One token of a scanner. A scanner that passes over a gap stands where it would have stood without
the gap, and one that passes over a longest lexeme gives it out as a token. Nothing here depends
on the source: all that counts is what the scanner looks at after each of its steps.
-/

namespace KayLexer.Scanner

/-! ### One step of a scan -/

variable {s s' : Scanner} {d d' : Draft} {start : Position} {c : Char}

/-- The draft takes the lookahead. -/
theorem scan_step (hc : s.current = some c) (he : d.extend c = some d')
    (ha : s.advance = (.ok (), s')) :
    s.scan d start = s'.scan d' (if d.isGap then s.position else start) := by
  rw [scan]
  have hb : s.current.bind d.extend = some d' := by rw [hc]; exact he
  split
  · next hd => rw [hb] at hd; cases hd
  · next d₁ hd =>
    rw [hb] at hd
    cases hd
    split
    · next s₁ hs => rw [ha] at hs; cases hs; rfl
    · next hs => rw [ha] at hs; cases hs

/-- The draft is finished. -/
theorem scan_stop (h : s.current.bind d.extend = none) :
    s.scan d start = (.ok (d.token start s.position), s) := by
  rw [scan]
  split
  · rfl
  · next hd => rw [h] at hd; cases hd

/-- The lookahead is taken, but the character behind it cannot be read. -/
theorem scan_error {e : ReadError} (hc : s.current = some c) (he : d.extend c = some d')
    (ha : s.advance = (.error e, s')) : s.scan d start = (.error e, s') := by
  rw [scan]
  have hb : s.current.bind d.extend = some d' := by rw [hc]; exact he
  split
  · next hd => rw [hb] at hd; cases hd
  · split
    · next hs => rw [ha] at hs; cases hs
    · next hs => rw [ha] at hs; cases hs; rfl

/-- Where a scan begins between tokens it does not matter which start it was given. -/
theorem scan_gap (p : Position) (s : Scanner) : s.scan .gap p = s.nextToken := by
  unfold nextToken
  cases hc : s.current with
  | none =>
    have h : s.current.bind Draft.gap.extend = none := by rw [hc]; rfl
    rw [scan_stop h, scan_stop h]
    rfl
  | some c =>
    match ha : s.advance with
    | (.ok (), s') => rw [scan_step hc rfl ha, scan_step hc rfl ha]; rfl
    | (.error e, s') => rw [scan_error hc rfl ha, scan_error hc rfl ha]

/-- At the end of the input there is only the end token, and nothing happens. -/
theorem nextToken_of_atEnd (h : s.atEnd = true) :
    s.nextToken = (.ok (.endOfFile s.position), s) := by
  have hc : s.current.bind Draft.gap.extend = none := by rw [current_of_atEnd h]; rfl
  rw [nextToken, scan_stop hc]
  rfl

/-! ### Passing over a text -/

/-- The scanner looks at the characters of a text one after the other, and then is `s'`. -/
inductive Passes : Scanner → List Char → Scanner → Prop where
  | refl (s : Scanner) : Passes s [] s
  | step {s s₁ s' : Scanner} {c : Char} {u : List Char} : s.current = some c →
      s.advance = (.ok (), s₁) → Passes s₁ u s' → Passes s (c :: u) s'

/-- A scan follows its draft. Only between tokens the start of the token is set anew. -/
theorem scan_run {u : List Char} (hd : d.run u = some d') (hp : Passes s u s') (p : Position) :
    ∃ q, s.scan d p = s'.scan d' q := by
  induction hp generalizing d p with
  | refl =>
    cases hd
    exact ⟨p, rfl⟩
  | step hc ha _ ih =>
    rw [Draft.run_cons] at hd
    obtain ⟨d₁, he, hd⟩ := Option.bind_eq_some_iff.1 hd
    rw [scan_step hc he ha]
    exact ih hd _

/-- A scan inside a token keeps the start of the token. -/
theorem scan_grows {u : List Char} (hg : d.Grows u d') (hp : Passes s u s') :
    s.scan d start = s'.scan d' start := by
  induction hg generalizing s with
  | refl => cases hp; rfl
  | step hd he _ ih =>
    cases hp with
    | step hc ha hp =>
      rw [scan_step hc he ha, hd]
      exact ih hp

/-! ### Gaps and lexemes -/

/-- **A gap is passed over as if it were not there.** -/
theorem nextToken_gap {g : List Char} (hg : Gap g) (hp : Passes s g s') :
    s.nextToken = s'.nextToken := by
  obtain ⟨q, h⟩ := scan_run (d := .gap) (Gap.run hg) hp s.position
  rw [scan_gap, scan_gap] at h
  exact h

/-- **A longest lexeme that is passed over is given out as a token.** -/
theorem nextToken_lexeme {k : TokenKind} {u rest : List Char} (hl : Longest k u rest)
    (hp : Passes s u s') (hc : s'.current = rest.head?) :
    s.nextToken = (.ok ⟨k, String.ofList u, s.position⟩, s') := by
  cases hp with
  | refl => exact absurd rfl hl.lexeme.ne_nil
  | @step _ s₁ _ c v hc₁ ha hp =>
    obtain ⟨d, hg, hd, hf⟩ := Draft.opening_of_lexeme hl.lexeme
    have hstop : s'.current.bind d.extend = none := by
      rw [hc]
      cases rest with
      | nil => rfl
      | cons b rest => exact hl.extend_eq_none hd
    rw [nextToken, scan_step hc₁ rfl ha, ite_self, scan_grows hg hp, scan_stop hstop,
      Draft.token, hf]

/-- **A trail that is passed over to the end of the input gives the end token.** -/
theorem nextToken_trail {g : List Char} (ht : Trail g) (hp : Passes s g s')
    (hc : s'.current = none) : s.nextToken = (.ok (.endOfFile s'.position), s') := by
  obtain ⟨d, hd, hf⟩ := ht.run
  obtain ⟨q, hq⟩ := scan_run hd hp s.position
  have hstop : s'.current.bind d.extend = none := by rw [hc]; rfl
  rw [nextToken, hq, scan_stop hstop, Draft.token, hf]

end KayLexer.Scanner
