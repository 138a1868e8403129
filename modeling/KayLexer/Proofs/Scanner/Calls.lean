import KayLexer.Proofs.Scanner.Outlook
import KayLexer.Scanner.Session

/-!
What a call does to its scanner. Whatever is asked of a scanner, it steps over characters, and then
either has its answer or meets an error at the next step. Main statements: all that may become of a
scanner by a call that begins before its end, and all that a step of a session may do.
-/

namespace KayLexer

namespace Scanner

variable {α β : Type} {s m s' : Scanner} {u v : List Char}

/-! ### Calls as steps -/

theorem Passes.append (h : Passes s u m) (h' : Passes m v s') : Passes s (u ++ v) s' := by
  induction h with
  | refl => exact h'
  | step hc ha _ ih => exact .step hc ha (ih h')

/-- The result of a call: the scanner passes over a text, and has its answer there, or passes over
a text and meets an error behind it. -/
inductive Call (s : Scanner) : Except ReadError α × Scanner → Prop where
  | answer {a : α} {s' : Scanner} {u : List Char} : Passes s u s' → Call s (.ok a, s')
  | error {e : ReadError} {m s' : Scanner} {u : List Char} {c : Char} : Passes s u m →
      m.current = some c → m.advance = (.error e, s') → Call s (.error e, s')

theorem Call.behind {r : Except ReadError α × Scanner} (hp : Passes s u m) (h : Call m r) :
    Call s r := by
  cases h with
  | answer h => exact .answer (hp.append h)
  | error h hc ha => exact .error (hp.append h) hc ha

theorem Call.passes {a : α} (h : Call s (.ok a, s')) : ∃ u, Passes s u s' := by
  cases h with
  | answer h => exact ⟨_, h⟩

theorem Call.map {r : Except ReadError α × Scanner} (h : Call s r) (f : α → β) :
    Call s (r.1.map f, r.2) := by
  cases h with
  | answer h => exact .answer h
  | error h hc ha => exact .error h hc ha

theorem call_scan (d : Draft) (p : Position) (s : Scanner) : Call s (s.scan d p) := by
  fun_induction scan d p s with
  | case1 d p s => exact .answer (.refl s)
  | case2 d p s d' hd s₁ ha ih =>
    obtain ⟨c, hc, -⟩ := Option.bind_eq_some_iff.1 hd
    exact ih.behind (.step hc ha (.refl s₁))
  | case3 d p s d' hd e s₁ ha =>
    obtain ⟨c, hc, -⟩ := Option.bind_eq_some_iff.1 hd
    exact .error (.refl s) hc ha

theorem call_nextToken (s : Scanner) : Call s s.nextToken := call_scan _ _ s

theorem call_tokenize (s : Scanner) : Call s s.tokenize := by
  fun_induction tokenize s with
  | case1 s e s₁ hn | case2 s t s₁ hn =>
    have h := s.call_nextToken.map fun t => [t]
    rwa [hn] at h
  | case3 s t s₁ hn ht ts s₂ hts ih | case4 s t s₁ hn ht e s₂ hts ih =>
    have h := s.call_nextToken
    rw [hn] at h
    rw [hts] at ih
    obtain ⟨u, hp⟩ := h.passes
    have := ih.behind hp
    first
      | exact this
      | exact this.map (t :: ·)

/-! ### What calls preserve -/

theorem Passes.invariant {P : Scanner → Prop}
    (step : ∀ {s c}, s.current = some c → P s → P s.advance.2) (h : Passes s u s') (hs : P s) :
    P s' := by
  induction h with
  | refl => exact hs
  | step hc ha _ ih =>
    have := step hc hs
    rw [ha] at this
    exact ih this

/-- What a step from a character preserves is preserved by a call. -/
theorem Call.invariant {P : Scanner → Prop} {r : Except ReadError α × Scanner}
    (step : ∀ {s c}, s.current = some c → P s → P s.advance.2) (h : Call s r) (hs : P s) :
    P r.2 := by
  cases h with
  | answer h => exact h.invariant step hs
  | error h hc ha =>
    have := step hc (h.invariant step hs)
    rwa [ha] at this

theorem Passes.eq_of_atEnd (h : Passes s u s') (he : s.atEnd = true) : s' = s := by
  cases h with
  | refl => rfl
  | step hc => simp [current_of_atEnd he] at hc

/-- At the end of the input a call has its answer, and nothing happens. -/
theorem Call.eq_of_atEnd {r : Except ReadError α × Scanner} (h : Call s r)
    (he : s.atEnd = true) : ∃ a, r = (.ok a, s) := by
  cases h with
  | answer h =>
    rw [h.eq_of_atEnd he]
    exact ⟨_, rfl⟩
  | error h hc =>
    rw [h.eq_of_atEnd he] at hc
    simp [current_of_atEnd he] at hc

/-! ### What becomes of a scanner -/

/-- What may become of a scanner that is not at its end, and of the source that it reads. -/
inductive Fate (s : Scanner) (source : Source) : Except ReadError α × Scanner → Prop where
  /-- The source gives characters only. -/
  | onward {last : Source} {cs : List Char} {a : α} {s' : Scanner} : source.Delivers last cs →
      s'.source = some last → s'.atEnd = false → s'.log = s.log → Fate s source (.ok a, s')
  /-- The source gives characters, and then nothing. -/
  | ended {e : Ending} {cs : List Char} {a : α} {s' : Scanner} : source.Delivers e.last cs →
      e.failure = none → e.log = s.log → s'.Sees e e.last.position [] → Fate s source (.ok a, s')
  /-- The source gives characters, and then has one that cannot be read. -/
  | failed {e : Ending} {x : Unreadable} {cs : List Char} {s' : Scanner} :
      source.Delivers e.last cs → e.failure = some x → e.log = s.log →
      s'.Sees e e.last.position [] → Fate s source (.error (.unreadable x), s')
  /-- The source gives characters, and then an error that is none of a character. -/
  | interrupted {last : Source} {cs : List Char} {e : ReadError} {s' : Scanner} :
      source.Delivers last cs → last.read.1 = .error e → (∀ x, e ≠ .unreadable x) →
      s'.source = some last.read.2 → s'.atEnd = false → s'.log = s.log →
      Fate s source (.error e, s')

variable {source : Source} {c : Char}

theorem fate_advance (he : s.atEnd = false) (hs : s.source = some source) :
    Fate s source s.advance := by
  simp only [advance, he, hs]
  split
  · next c hr =>
    have hd : source.Delivers source.read.2 [c] := ⟨hr, rfl⟩
    exact .onward hd rfl rfl rfl
  · next hr =>
    let e : Ending := ⟨source, none, s.log, hr⟩
    exact @Fate.ended _ _ _ e [] _ _ rfl rfl rfl ⟨rfl, rfl, rfl, rfl⟩
  · next x hr =>
    let e : Ending := ⟨source, some x, s.log, hr⟩
    exact @Fate.failed _ _ _ e x [] _ rfl rfl rfl ⟨rfl, rfl, rfl, rfl⟩
  · next e hx hr => exact @Fate.interrupted _ _ _ source [] _ _ rfl hr hx rfl rfl rfl

/-- A scanner that reads on and then meets its fate met it when it began. -/
theorem Fate.behind {last : Source} {cs : List Char} {r : Except ReadError α × Scanner}
    (hd : source.Delivers last cs) (hl : m.log = s.log) (h : Fate m last r) : Fate s source r := by
  cases h with
  | onward h hs ha hm => exact .onward (hd.append h) hs ha (hm.trans hl)
  | ended h hf hm hs => exact .ended (hd.append h) hf (hm.trans hl) hs
  | failed h hf hm hs => exact .failed (hd.append h) hf (hm.trans hl) hs
  | interrupted h hr hx hs ha hm => exact .interrupted (hd.append h) hr hx hs ha (hm.trans hl)

theorem Passes.fate (h : Passes s u s') (he : s.atEnd = false) (hs : s.source = some source)
    (a : α) : Fate s source (.ok a, s') := by
  induction h generalizing source with
  | refl =>
    have hd : source.Delivers source [] := rfl
    exact .onward hd hs he rfl
  | step hc ha hp ih =>
    have h := fate_advance he hs
    rw [ha] at h
    cases h with
    | onward hd hs₁ he₁ hl₁ => exact (ih he₁ hs₁).behind hd hl₁
    | ended hd hf hl hsees =>
      rw [hp.eq_of_atEnd hsees.1]
      exact .ended hd hf hl hsees

/-- **What becomes of a scanner by a call that begins before its end.** -/
theorem Call.fate {r : Except ReadError α × Scanner} (h : Call s r) (he : s.atEnd = false)
    (hs : s.source = some source) : Fate s source r := by
  cases h with
  | answer h => exact h.fate he hs _
  | @error e m s' u c h hc ha =>
    cases h.fate he hs () with
    | onward hd hsm hem hlm =>
      have h := fate_advance hem hsm
      rw [ha] at h
      cases h with
      | failed h hf hl hsees => exact .failed (hd.append h) hf (hl.trans hlm) hsees
      | interrupted h hr hx hs he hl =>
        exact .interrupted (hd.append h) hr hx hs he (hl.trans hlm)
    | ended hd hf hl hsees => simp [current_of_atEnd hsees.1] at hc

end Scanner

namespace Session

open Scanner (Call)

/-! ### Steps of a session -/

/-- What a step does to the scanner: one call, behind which the scanner may be closed, or a read of
the source that the scanner does not know of. -/
inductive Effect (t : Scanner) : Except ReadError SessionAnswer × Scanner → Prop where
  | call {r : Except ReadError SessionAnswer × Scanner} : Call t r → Effect t r
  | closing {r : Except ReadError SessionAnswer × Scanner} : Call t r → Effect t (r.1, r.2.close)
  | reading : Effect t (t.readSource.1.map .char, t.readSource.2)

theorem call_resume (s : Session) (index : Nat) :
    Call s.scanner ((s.resume index).1, (s.resume index).2.scanner) := by
  have h := s.scanner.call_nextToken
  rw [resume]
  split
  · cases hn : s.scanner.nextToken with
    | mk r t =>
      rw [hn] at h
      cases r with
      | ok token =>
        dsimp only
        split
        · exact h.map fun _ => SessionAnswer.stop
        · exact h.map SessionAnswer.token
      | error e => exact h.map SessionAnswer.token
  · exact .answer (.refl _)

/-- A step that neither reads the source behind the scanner's back nor closes it is one call. -/
theorem call_step (s : Session) {x : SessionStep} (hr : x ≠ .readChar) (hc : x ≠ .close)
    (hn : x ≠ .closingNext) : Call s.scanner ((s.step x).1, (s.step x).2.scanner) := by
  have nothing (a : SessionAnswer) : Call s.scanner (.ok a, s.scanner) := .answer (.refl _)
  have htokens := s.scanner.call_tokenize
  cases x with
  | next => exact s.scanner.call_nextToken.map SessionAnswer.token
  | tokenize => exact htokens.map SessionAnswer.tokens
  | list => exact (htokens.map List.dropLast).map SessionAnswer.tokens
  | iterate | openError => exact nothing _
  | resume index => exact s.call_resume index
  | print => exact (htokens.map Token.renderLines).map SessionAnswer.output
  | readChar => exact absurd rfl hr
  | close => exact absurd rfl hc
  | closingNext => exact absurd rfl hn

/-- **A step of a session is one of the effects.** -/
theorem effect_step (s : Session) (x : SessionStep) :
    Effect s.scanner ((s.step x).1, (s.step x).2.scanner) := by
  cases x with
  | readChar => exact .reading
  | close =>
    have h : Call s.scanner (.ok SessionAnswer.done, s.scanner) := .answer (.refl _)
    exact .closing h
  | closingNext => exact .closing (s.scanner.call_nextToken.map SessionAnswer.enteredToken)
  | _ => exact .call (s.call_step nofun nofun nofun)

/-- What steps of a scanner, reads of its source and closing preserve is preserved by an effect. -/
theorem Effect.invariant {P : Scanner → Prop} {t : Scanner}
    {r : Except ReadError SessionAnswer × Scanner}
    (advance : ∀ {t c}, t.current = some c → P t → P t.advance.2)
    (read : ∀ {t}, P t → P t.readSource.2) (close : ∀ {t}, P t → P t.close)
    (h : Effect t r) (ht : P t) : P r.2 := by
  cases h with
  | call h => exact h.invariant advance ht
  | closing h => exact close (h.invariant advance ht)
  | reading => exact read ht

/-- The session after the steps. -/
def after (s : Session) : List SessionStep → Session
  | [] => s
  | x :: xs => (s.step x).2.after xs

/-- What each step of some kind preserves is preserved by a session of such steps. -/
theorem after_of_step {P : Scanner → Prop} {Q : SessionStep → Prop} {s : Session}
    {xs : List SessionStep}
    (step : ∀ {s : Session} {x}, Q x → P s.scanner → P (s.step x).2.scanner)
    (hxs : ∀ x ∈ xs, Q x) (h : P s.scanner) : P (s.after xs).scanner := by
  induction xs generalizing s with
  | nil => exact h
  | cons x xs ih =>
    obtain ⟨hx, hxs⟩ := List.forall_mem_cons.1 hxs
    exact ih hxs (step hx h)

/-- **What each effect preserves is preserved by a session.** -/
theorem after_invariant {P : Scanner → Prop} {s : Session}
    (effect : ∀ {t r}, Effect t r → P t → P r.2) (h : P s.scanner) (xs : List SessionStep) :
    P (s.after xs).scanner :=
  after_of_step (Q := fun _ => True) (fun {s x} _ hs => effect (s.effect_step x) hs)
    (fun _ _ => trivial) h

/-- What steps of a scanner and closing preserve is preserved by a session in which nobody else
reads the source. -/
theorem after_unshared {P : Scanner → Prop} {s : Session} {xs : List SessionStep}
    (advance : ∀ {t c}, t.current = some c → P t → P t.advance.2)
    (close : ∀ {t}, P t → P t.close) (hxs : .readChar ∉ xs) (h : P s.scanner) :
    P (s.after xs).scanner := by
  refine after_of_step (Q := (· ≠ .readChar)) ?_ ?_ h
  · intro s x hx hs
    by_cases hc : x = .close
    · subst hc
      exact close hs
    by_cases hn : x = .closingNext
    · subst hn
      exact close (s.scanner.call_nextToken.invariant advance hs)
    exact (s.call_step hx hc hn).invariant advance hs
  · rintro x hx rfl
    exact hxs hx

end Session

end KayLexer
