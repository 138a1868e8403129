import KayLexer.Proofs.Scanner.Calls

/-!
The life of a scanner in a session. Whatever the steps are, and whoever else reads the source, a
scanner comes to its end once, records that and nothing else, and does nothing any more from then
on. Main statement: this for every source and every sequence of steps.
-/

namespace KayLexer

namespace Scanner

variable {α : Type} {s s' : Scanner}

/-- The scanner comes to its end by a call: behind some characters its source gives nothing, or has
a character that cannot be read, and the scanner records which of the two it was. -/
inductive ComesToEnd (s : Scanner) : Except ReadError α × Scanner → Prop where
  | exhausted {source last : Source} {cs : List Char} {a : α} {s' : Scanner} :
      s.source = some source → source.Delivers last cs → last.read.1 = .ok none →
      s'.atEnd = true → s'.log = s.log ++ [⟨.debug, .scanner, endMessage last.position⟩] →
      ComesToEnd s (.ok a, s')
  | unreadable {source last : Source} {cs : List Char} {x : Unreadable} {s' : Scanner} :
      s.source = some source → source.Delivers last cs → last.read.1 = .error (.unreadable x) →
      s'.atEnd = true → s'.log = s.log ++ [⟨.error, .scanner, stopMessage x⟩] →
      ComesToEnd s (.error (.unreadable x), s')

/-- The scanner reads on: it has a source, is not at its end, and its log has not changed. -/
structure ReadsOn (s s' : Scanner) : Prop where
  atEnd : s'.atEnd = false
  log : s'.log = s.log
  source : s'.source.isSome = true

theorem ComesToEnd.close {r : Except ReadError α × Scanner} (h : ComesToEnd s r) :
    ComesToEnd s (r.1, r.2.close) := by
  cases h with
  | exhausted hs hd hr he hl => exact .exhausted hs hd hr he hl
  | unreadable hs hd hr he hl => exact .unreadable hs hd hr he hl

theorem ReadsOn.close (h : s.ReadsOn s') : s.ReadsOn s'.close := by
  refine ⟨h.atEnd, h.log, ?_⟩
  rw [Scanner.close, Option.isSome_map]
  exact h.source

/-- **A scanner reads on, or comes to its end.** -/
theorem Fate.readsOn_or_comesToEnd {source : Source} {r : Except ReadError α × Scanner}
    (h : Fate s source r) (hs : s.source = some source) : s.ReadsOn r.2 ∨ s.ComesToEnd r := by
  cases h with
  | onward _ hs' he hl => exact Or.inl ⟨he, hl, by simp [hs']⟩
  | @ended e _ _ _ hd hf hl hsees =>
    obtain ⟨he, -, -, hlog⟩ := hsees
    have hr := e.read_last
    simp only [hf, Option.elim] at hr
    refine Or.inr (.exhausted hs hd hr he ?_)
    rw [hlog, hl, Ending.record, hf]
  | @failed e x _ _ hd hf hl hsees =>
    obtain ⟨he, -, -, hlog⟩ := hsees
    have hr := e.read_last
    simp only [hf, Option.elim, Function.comp] at hr
    refine Or.inr (.unreadable hs hd hr he ?_)
    rw [hlog, hl, Ending.record, hf]
  | interrupted _ _ _ hs' he hl => exact Or.inl ⟨he, hl, by simp [hs']⟩

end Scanner

namespace Session

open Scanner (Call ComesToEnd ReadsOn endMessage stopMessage)

variable {t : Scanner} {r : Except ReadError SessionAnswer × Scanner}

/-! ### In front of the end -/

theorem readSource_eq (t : Scanner) :
    t.readSource.2.atEnd = t.atEnd ∧ t.readSource.2.log = t.log ∧
      t.readSource.2.position = t.position ∧
      t.readSource.2.source.isSome = t.source.isSome := by
  unfold Scanner.readSource
  split
  · next h => simp [h]
  · exact ⟨rfl, rfl, rfl, rfl⟩

/-- A step in front of the end is read on from, or comes to the end. -/
theorem Effect.readsOn_or_comesToEnd (h : Effect t r) (ha : t.atEnd = false)
    (hs : t.source.isSome = true) : t.ReadsOn r.2 ∨ t.ComesToEnd r := by
  obtain ⟨source, hs'⟩ := Option.isSome_iff_exists.1 hs
  cases h with
  | call h => exact (h.fate ha hs').readsOn_or_comesToEnd hs'
  | closing h =>
    rcases (h.fate ha hs').readsOn_or_comesToEnd hs' with h | h
    · exact Or.inl h.close
    · exact Or.inr h.close
  | reading =>
    obtain ⟨he, hl, -, hsource⟩ := readSource_eq t
    exact Or.inl ⟨he.trans ha, hl, hsource.trans hs⟩

/-! ### Behind the end -/

/-- What is settled of a scanner with its end: that it is there, where, and what was recorded. -/
structure Rests (p : Position) (log : List LogRecord) (t : Scanner) : Prop where
  atEnd : t.atEnd = true
  position : t.position = p
  log : t.log = log

theorem Effect.rests {p : Position} {log : List LogRecord} (h : Effect t r)
    (ht : Rests p log t) : Rests p log r.2 := by
  cases h with
  | call h =>
    obtain ⟨a, rfl⟩ := h.eq_of_atEnd ht.atEnd
    exact ht
  | closing h =>
    obtain ⟨a, rfl⟩ := h.eq_of_atEnd ht.atEnd
    exact ⟨ht.atEnd, ht.position, ht.log⟩
  | reading =>
    obtain ⟨he, hl, hp, -⟩ := readSource_eq t
    exact ⟨he.trans ht.atEnd, hp.trans ht.position, hl.trans ht.log⟩

/-! ### The whole life -/

/-- What holds of a scanner all its life: it records nothing before its end, and one thing at most
with it. -/
inductive Lives (t : Scanner) : Prop where
  | reading : t.atEnd = false → t.source.isSome = true → t.log = [] → Lives t
  | ended : t.atEnd = true → t.log.length ≤ 1 → Lives t

theorem Effect.lives (h : Effect t r) (ht : Lives t) : Lives r.2 := by
  cases ht with
  | reading ha hs hl =>
    rcases h.readsOn_or_comesToEnd ha hs with h | h
    · exact .reading h.atEnd h.source (h.log.trans hl)
    · cases h with
      | exhausted _ _ _ he hlog | unreadable _ _ _ he hlog =>
        exact .ended he (by simp [hlog, hl])
  | ended ha hl =>
    have := h.rests ⟨ha, rfl, rfl⟩
    exact .ended this.atEnd (by rw [this.log]; exact hl)

/-- The session of a new scanner, with a source or with nothing to scan. -/
def onSource (source : Option Source) (openError : Option NotFound) : Session :=
  ofScanner (source.elim (.absent openError) .ofSource)

theorem lives_onSource (source : Option Source) (openError : Option NotFound) :
    Lives (onSource source openError).scanner := by
  cases source with
  | none => exact .ended rfl (Nat.zero_le 1)
  | some source => exact .reading rfl rfl rfl

/-- **A scanner comes to its end once, records that only, and rests from then on.** This is so
after any steps on any source. A step leaves the end and the log as they are, or it comes to the
end and records it. Behind the end, whatever steps follow, the end token is the same, and to give it
out changes nothing, the source included. -/
theorem comes_to_end_once (source : Option Source) (openError : Option NotFound)
    (xs : List SessionStep) :
    let s := (onSource source openError).after xs
    s.scanner.log.length ≤ 1 ∧
    (∀ x : SessionStep,
      (s.step x).2.scanner.atEnd = s.scanner.atEnd ∧ (s.step x).2.scanner.log = s.scanner.log ∨
      s.scanner.atEnd = false ∧ s.scanner.ComesToEnd ((s.step x).1, (s.step x).2.scanner)) ∧
    (s.scanner.atEnd = true → ∀ ys : List SessionStep,
      (s.after ys).scanner.atEnd = true ∧ (s.after ys).scanner.log = s.scanner.log ∧
      (s.after ys).scanner.nextToken =
        (.ok (.endOfFile s.scanner.position), (s.after ys).scanner)) := by
  intro s
  have hlives : Lives s.scanner :=
    after_invariant Effect.lives (lives_onSource source openError) xs
  refine ⟨?_, ?_, ?_⟩
  · cases hlives with
    | reading _ _ hl => simp [hl]
    | ended _ hl => exact hl
  · intro x
    cases hlives with
    | reading ha hs _ =>
      rcases (s.effect_step x).readsOn_or_comesToEnd ha hs with h | h
      · exact Or.inl ⟨h.atEnd.trans ha.symm, h.log⟩
      · exact Or.inr ⟨ha, h⟩
    | ended ha _ =>
      have h := (s.effect_step x).rests ⟨ha, rfl, rfl⟩
      exact Or.inl ⟨h.atEnd.trans ha.symm, h.log⟩
  · intro ha ys
    have h : Rests s.scanner.position s.scanner.log (s.after ys).scanner :=
      after_invariant Effect.rests ⟨ha, rfl, rfl⟩ ys
    refine ⟨h.atEnd, h.log, ?_⟩
    rw [Scanner.nextToken_of_atEnd h.atEnd, h.position]

end Session

end KayLexer
