import KayLexer.Proofs.Scanner.Alike
import KayLexer.Proofs.Scanner.Calls
import KayLexer.Proofs.Scanner.Stream

/-!
Sessions that take tokens. However the tokens of a scanner are taken, one by one, all at once, by
iterations side by side or as text, they are taken from the front of what the scanner has left. Main
statement: what the steps of a session hand out, one after the other, is the beginning of the tokens
of the text, and all of them behind each step that runs to the end.
-/

namespace KayLexer

open Position (start)

/-- Whether the step is one of those that take tokens. -/
def SessionStep.takesTokens : SessionStep → Bool
  | .next | .tokenize | .list | .iterate | .resume _ | .print => true
  | .readChar | .openError | .close | .closingNext => false

/-- The tokens, end tokens aside, that an answer hands out. -/
def SessionAnswer.Hands : SessionAnswer → List Token → Prop
  | .token t, ts => ts = [t].filter fun t => !t.isEndOfFile
  | .tokens us, ts => ts = us.filter fun t => !t.isEndOfFile
  | .output o, ts => (∀ t ∈ ts, t.isEndOfFile = false) ∧
      ∃ p, o = Token.renderLines (ts ++ [.endOfFile p])
  | _, ts => ts = []

/-- The step asks for tokens until there are none, or an iteration finds at it that there are
none. -/
def SessionStep.Completes (s : Session) : SessionStep → Prop
  | .tokenize | .list | .print => True
  | .resume index => index < s.iterations.length ∧ (s.resume index).1 = .ok .stop
  | _ => False

namespace Session

/-- The session has the tokens left. No iteration is over as long as there are any. -/
structure HasLeft (s : Session) (p : Position) (ts : List Token) : Prop where
  yields : s.scanner.Yields p ts
  atEnd : .over ∈ s.iterations → s.scanner.atEnd = true

/-- A step gives an answer, which hands out the first of what the session has left, and all of it if
the step runs to the end. -/
def Hands (s : Session) (x : SessionStep) (p : Position) (ts : List Token) : Prop :=
  ∃ a us rest, (s.step x).1 = .ok a ∧ a.Hands us ∧ ts = us ++ rest ∧ (s.step x).2.HasLeft p rest ∧
    (x.Completes s → rest = [])

variable {s : Session} {p : Position} {ts : List Token}

theorem hasLeft_nil {t : Scanner} (ha : t.atEnd = true) (hp : t.position = p)
    (iterations : List Iteration) : HasLeft ⟨t, iterations⟩ p [] :=
  ⟨.nil_of_atEnd ha hp, fun _ => ha⟩

/-- No iteration is over as long as there is a token left. -/
theorem HasLeft.cons {t : Token} {t' : Scanner} (h : s.HasLeft p (t :: ts))
    (h' : t'.Yields p ts) : HasLeft ⟨t', s.iterations⟩ p ts := by
  refine ⟨h', fun ho => ?_⟩
  cases h.yields.eq_nil (h.atEnd ho)

theorem HasLeft.hands_next (h : s.HasLeft p ts) : s.Hands .next p ts := by
  cases ts with
  | nil =>
    obtain ⟨s', hn, ha, hp⟩ := h.yields
    refine ⟨.token (.endOfFile p), [], [], ?_, rfl, rfl, ?_, False.elim⟩
    · rw [step, answer, hn]
      rfl
    · rw [step, answer, hn]
      exact hasLeft_nil ha hp s.iterations
  | cons t ts =>
    obtain ⟨ht, s', hn, h'⟩ := h.yields
    refine ⟨.token t, [t], ts, ?_, ?_, rfl, ?_, False.elim⟩
    · rw [step, answer, hn]
      rfl
    · exact (filter_isEndOfFile (List.forall_mem_singleton.2 ht)).symm
    · rw [step, answer, hn]
      exact h.cons h'

/-- An iteration that is over, or was never begun, does not touch the scanner. -/
theorem resume_of_ne_running {index : Nat} (hi : s.iterations[index]? ≠ some .running) :
    s.resume index = (.ok .stop, s) := by
  unfold resume
  split
  · next h => exact absurd h hi
  · rfl

/-- An iteration that is not running is over. -/
theorem mem_of_ne_running {index : Nat} (hi : s.iterations[index]? ≠ some .running)
    (hlt : index < s.iterations.length) : .over ∈ s.iterations := by
  rw [List.getElem?_eq_getElem hlt] at hi
  have hmem := List.getElem_mem hlt
  cases hv : s.iterations[index]
  · exact absurd (congrArg some hv) hi
  · rwa [hv] at hmem

/-- An iteration takes the next token, or finds that there is none. One that is over has found that
before. -/
theorem HasLeft.hands_resume (h : s.HasLeft p ts) (index : Nat) : s.Hands (.resume index) p ts := by
  by_cases hi : s.iterations[index]? = some .running
  · cases ts with
    | nil =>
      obtain ⟨s', hn, ha, hp⟩ := h.yields
      have hr : s.resume index = (.ok .stop, ⟨s', s.iterations.set index .over⟩) := by
        rw [resume, hi, hn]
        rfl
      refine ⟨.stop, [], [], ?_, rfl, rfl, ?_, fun _ => rfl⟩
      · rw [step, hr]
      · rw [step, hr]
        exact hasLeft_nil ha hp _
    | cons t ts =>
      obtain ⟨ht, s', hn, h'⟩ := h.yields
      have hr : s.resume index = (.ok (.token t), ⟨s', s.iterations⟩) := by
        rw [resume, hi, hn]
        simp [ht]
      refine ⟨.token t, [t], ts, ?_, ?_, rfl, ?_, ?_⟩
      · rw [step, hr]
      · exact (filter_isEndOfFile (List.forall_mem_singleton.2 ht)).symm
      · rw [step, hr]
        exact h.cons h'
      · rintro ⟨-, hstop⟩
        rw [hr] at hstop
        cases hstop
  · have hr := resume_of_ne_running hi
    refine ⟨.stop, [], ts, ?_, rfl, rfl, ?_, ?_⟩
    · rw [step, hr]
    · rw [step, hr]
      exact h
    · rintro ⟨hlt, -⟩
      exact h.yields.eq_nil (h.atEnd (mem_of_ne_running hi hlt))

/-- **Each step takes what it hands out from the front of what is left.** -/
theorem HasLeft.hands (h : s.HasLeft p ts) {x : SessionStep} (hx : x.takesTokens = true) :
    s.Hands x p ts := by
  obtain ⟨s', hall, ha, hp⟩ := h.yields.tokenize
  have hts := h.yields.not_isEndOfFile
  have hend : HasLeft ⟨s', s.iterations⟩ p [] := hasLeft_nil ha hp s.iterations
  cases x with
  | next => exact h.hands_next
  | tokenize =>
    refine ⟨.tokens (ts ++ [.endOfFile p]), ts, [], ?_, ?_, (List.append_nil ts).symm, ?_,
      fun _ => rfl⟩
    · rw [step, answer, hall]
      rfl
    · simp [SessionAnswer.Hands, filter_isEndOfFile hts]
    · rw [step, answer, hall]
      exact hend
  | list =>
    refine ⟨.tokens ts, ts, [], ?_, ?_, (List.append_nil ts).symm, ?_, fun _ => rfl⟩
    · rw [step, answer, Scanner.tokens, hall]
      simp [Except.map]
    · exact (filter_isEndOfFile hts).symm
    · rw [step, answer, Scanner.tokens, hall]
      exact hend
  | iterate =>
    refine ⟨.done, [], ts, rfl, rfl, rfl, ⟨h.yields, ?_⟩, False.elim⟩
    intro ho
    apply h.atEnd
    simpa [step] using ho
  | resume index => exact h.hands_resume index
  | print =>
    refine ⟨.output (Token.renderLines (ts ++ [.endOfFile p])), ts, [], ?_, ⟨hts, p, rfl⟩,
      (List.append_nil ts).symm, ?_, fun _ => rfl⟩
    · rw [step, answer, Scanner.print, hall]
      rfl
    · rw [step, answer, Scanner.print, hall]
      exact hend
  | readChar | openError | close | closingNext => cases hx

/-- **The steps of a session hand out the beginning of what is left, and all of it if one of them
runs to the end.** -/
theorem HasLeft.run (h : s.HasLeft p ts) {xs : List SessionStep}
    (hxs : ∀ x ∈ xs, x.takesTokens = true) : ∃ hs : List (SessionAnswer × List Token),
      (s.run xs).map Prod.fst = hs.map (.ok ·.1) ∧ (∀ h ∈ hs, h.1.Hands h.2) ∧
      hs.flatMap Prod.snd <+: ts ∧
      ∀ ys x zs, xs = ys ++ x :: zs → x.Completes (s.after ys) →
        (hs.take (ys.length + 1)).flatMap Prod.snd = ts := by
  induction xs generalizing s ts with
  | nil => exact ⟨[], rfl, by simp, List.nil_prefix, by simp⟩
  | cons x xs ih =>
    obtain ⟨hx, hxs⟩ := List.forall_mem_cons.1 hxs
    obtain ⟨a, us, rest, ha, hus, rfl, h', hend⟩ := h.hands hx
    obtain ⟨hs, hrun, hhs, hle, hall⟩ := ih h' hxs
    refine ⟨(a, us) :: hs, ?_, ?_, ?_, ?_⟩
    · rw [Session.run, List.map_cons, List.map_cons, hrun, ha]
    · exact List.forall_mem_cons.2 ⟨hus, hhs⟩
    · rw [List.flatMap_cons]
      exact (List.prefix_append_right_inj us).2 hle
    · intro ys y zs hsplit hy
      cases ys with
      | nil =>
        obtain ⟨rfl, -⟩ := List.cons.inj hsplit
        simp [hend hy]
      | cons z ys =>
        obtain ⟨rfl, hsplit'⟩ := List.cons.inj hsplit
        rw [List.length_cons, List.take_succ_cons, List.flatMap_cons, hall ys y zs hsplit' hy]

/-- **All ways to take tokens share one stream.** Whatever the steps of a session over a text are,
each of them gives an answer, and what the answers hand out, one after the other, is the beginning
of the tokens of the text, each of them once. Behind a step that runs to the end it is all of
them. -/
theorem run_shares (text : String) {xs : List SessionStep}
    (hxs : ∀ x ∈ xs, x.takesTokens = true) :
    ∃ (ts : List Token) (hs : List (SessionAnswer × List Token)),
      (Scanner.ofString text).tokenize.1 =
        .ok (ts ++ [.endOfFile (start.afterText text.toList)]) ∧
      (∀ t ∈ ts, t.isEndOfFile = false) ∧
      ((ofScanner (.ofString text)).run xs).map Prod.fst = hs.map (.ok ·.1) ∧
      (∀ h ∈ hs, h.1.Hands h.2) ∧ hs.flatMap Prod.snd <+: ts ∧
      ∀ ys x zs, xs = ys ++ x :: zs → x.Completes ((ofScanner (.ofString text)).after ys) →
        (hs.take (ys.length + 1)).flatMap Prod.snd = ts := by
  obtain ⟨ts, hl⟩ := exists_lexed start text.toList
  have hy := Scanner.yields_ofString hl
  have h : HasLeft (ofScanner (.ofString text)) (start.afterText text.toList) ts :=
    ⟨hy, by simp [ofScanner]⟩
  obtain ⟨hs, hrun⟩ := h.run hxs
  exact ⟨ts, hs, Scanner.tokenize_ofString hl, hy.not_isEndOfFile, hrun⟩

/-- Two iterations side by side and a call take the three tokens of a text, after which the first
iteration finds that there are none left. -/
theorem run_shares_iterations :
    ∃ hs : List (SessionAnswer × List Token), ((ofScanner (.ofString "x:=1")).run
        [.resume 0, .iterate, .next, .resume 1, .resume 0, .list]).map Prod.fst =
          hs.map (.ok ·.1) ∧
      (∀ h ∈ hs, h.1.Hands h.2) ∧ (hs.take 5).flatMap Prod.snd =
        [⟨.identifier, "x", ⟨1, 1⟩⟩, ⟨.operator, ":=", ⟨1, 2⟩⟩, ⟨.literal, "1", ⟨1, 4⟩⟩] := by
  let begun : List SessionStep := [.resume 0, .iterate, .next, .resume 1]
  have hxs : ∀ x ∈ begun ++ [.resume 0, .list], x.takesTokens = true := by decide
  obtain ⟨ts, hs, hts, -, hrun, hhs, -, hall⟩ := run_shares "x:=1" hxs
  have hwords : (Scanner.ofString "x:=1").tokenize.1 = .ok ([⟨.identifier, "x", ⟨1, 1⟩⟩,
      ⟨.operator, ":=", ⟨1, 2⟩⟩, ⟨.literal, "1", ⟨1, 4⟩⟩] ++ [.endOfFile ⟨1, 5⟩]) := by
    with_unfolding_all rfl
  rw [hwords] at hts
  obtain ⟨rfl, -⟩ := List.append_inj' (Except.ok.inj hts) rfl
  have hstop : SessionStep.Completes ((ofScanner (.ofString "x:=1")).after begun) (.resume 0) := by
    with_unfolding_all exact ⟨by decide, rfl⟩
  exact ⟨hs, hrun, hhs, hall begun (.resume 0) [.list] rfl hstop⟩

end Session

end KayLexer
