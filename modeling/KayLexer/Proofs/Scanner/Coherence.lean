import KayLexer.Proofs.Scanner.Calls

/-!
The end of the input and the lookahead. A scanner has a lookahead as long as it is not at its end,
and then it has a source too. No step alone makes this so: each one relies on it and restores it,
also where the source fails. Because of it a scan may test for the end only, or for the lookahead
only, before it takes a step. Main statement: this for every scanner and every sequence of steps,
and what the scanner is like behind an error that is none of a character.
-/

namespace KayLexer

namespace Scanner

variable {s s' t t' m m' : Scanner} {d d' : Draft} {p : Position} {ms : List Scanner}
  {r : Except ReadError Token × Scanner} {e : ReadError} {source : Source}

/-- The scanner is at its end where it has no lookahead, and only there. In front of its end it has
a source. -/
structure Coherent (s : Scanner) : Prop where
  atEnd_iff : s.atEnd = true ↔ s.lookahead = none
  source : s.atEnd = false → s.source.isSome = true

/-- The ways to make a scanner: of a source, which may have been read from before, of a text, of
nothing, and of a file. -/
inductive Made : Scanner → Prop where
  | ofSource (source : Source) (openError : Option NotFound) :
      Made { ofSource source with openError }
  | ofString (text : String) : Made (ofString text)
  | absent (openError : Option NotFound) : Made (absent openError)
  | ofPath {files : FileSystem} {path : SourcePath} {shown encoding : String}
      {registry : Encoding.Registry} {s : Scanner} :
      ofPath files path shown encoding registry = .ok s → Made s

/-! ### What keeps a scanner coherent -/

theorem coherent_ofSource (source : Source) : (ofSource source).Coherent :=
  ⟨by simp [ofSource], fun _ => rfl⟩

theorem coherent_absent (openError : Option NotFound) : (absent openError).Coherent :=
  ⟨by simp [absent], nofun⟩

theorem Made.coherent (h : s.Made) : s.Coherent := by
  cases h with
  | ofSource source => exact ⟨(coherent_ofSource source).atEnd_iff, fun _ => rfl⟩
  | ofString text => exact coherent_ofSource _
  | absent openError => exact coherent_absent openError
  | @ofPath files path shown encoding registry _ h =>
    unfold Scanner.ofPath at h
    split at h
    · next source _ =>
      cases h
      exact ⟨(coherent_ofSource (.bytes source)).atEnd_iff, fun _ => rfl⟩
    · next x _ =>
      cases h
      exact ⟨(coherent_absent x).atEnd_iff, nofun⟩
    · cases h

/-- **Every way out of a step is coherent.** -/
theorem Coherent.advance (h : s.Coherent) : s.advance.2.Coherent := by
  cases he : s.atEnd with
  | true =>
    simp only [Scanner.advance, he]
    exact ⟨by simp, by simp⟩
  | false =>
    obtain ⟨source, hs⟩ := Option.isSome_iff_exists.1 (h.source he)
    have hlook : s.lookahead ≠ none := fun hn => by simp [h.atEnd_iff.2 hn] at he
    simp only [Scanner.advance, he, hs]
    split
    · exact ⟨by simp, fun _ => rfl⟩
    · exact ⟨by simp [stop], by simp [stop]⟩
    · exact ⟨by simp [stop], by simp [stop]⟩
    · -- nothing has changed but the source, so that the lookahead is still there
      exact ⟨by simpa using hlook, fun _ => rfl⟩

theorem Coherent.of_advance {a : Except ReadError Unit} (h : s.Coherent)
    (ha : s.advance = (a, s')) : s'.Coherent := by
  have h' := h.advance
  rwa [ha] at h'

theorem Coherent.readSource (h : s.Coherent) : s.readSource.2.Coherent := by
  unfold Scanner.readSource
  split
  · exact ⟨h.atEnd_iff, fun _ => rfl⟩
  · exact h

theorem Coherent.close (h : s.Coherent) : s.close.Coherent := by
  refine ⟨h.atEnd_iff, fun he => ?_⟩
  rw [Scanner.close, Option.isSome_map]
  exact h.source he

theorem Coherent.nextToken (h : s.Coherent) : s.nextToken.2.Coherent :=
  s.call_nextToken.invariant (fun _ h => h.advance) h

/-! ### Scans that test less -/

/-- What the next step makes of the draft, or `none` if there is no such step, by tests that look
at no more than they have to. Inside a comment the scanner goes on unless it is at its end or looks
at the end of the line, so that a missing lookahead does not stop it. Half an operator goes on if
the other half is the lookahead, even at the end. -/
def tested (s : Scanner) : Draft → Option Draft
  | .comment => if s.atEnd then none else s.lookahead.elim (some .comment) Draft.comment.extend
  | .extensible c => s.lookahead.bind (Draft.extensible c).extend
  | .half c => s.lookahead.bind (Draft.half c).extend
  | d => s.current.bind d.extend

/-- A scan by these tests, with the scanners that take its steps, one after the other. -/
inductive Trace : Draft → Position → Scanner → List Scanner →
    Except ReadError Token × Scanner → Prop where
  | finished {d : Draft} {p : Position} {s : Scanner} : s.tested d = none →
      Trace d p s [] (.ok (d.token p s.position), s)
  | onward {d d' : Draft} {p : Position} {s s' : Scanner} {ms : List Scanner}
      {r : Except ReadError Token × Scanner} : s.tested d = some d' → s.advance = (.ok (), s') →
      Trace d' (if d.isGap then s.position else p) s' ms r → Trace d p s (s :: ms) r
  | broken {d d' : Draft} {p : Position} {s s' : Scanner} {e : ReadError} :
      s.tested d = some d' → s.advance = (.error e, s') → Trace d p s [s] (.error e, s')

theorem Coherent.current_eq (h : s.Coherent) : s.current = s.lookahead := by
  unfold current
  split
  · next he => exact (h.atEnd_iff.1 he).symm
  · rfl

/-- **A coherent scanner passes the smaller tests where it passes both.** -/
theorem Coherent.tested_eq (h : s.Coherent) (d : Draft) :
    s.tested d = s.current.bind d.extend := by
  cases d with
  | comment =>
    rw [h.current_eq, tested]
    cases hl : s.lookahead with
    | none => rw [if_pos (h.atEnd_iff.2 hl)]; rfl
    | some c =>
      have he : s.atEnd ≠ true := fun he => by simp [h.atEnd_iff.1 he] at hl
      rw [if_neg he]
      rfl
  | extensible c | half c => rw [tested, h.current_eq]
  | _ => rfl

/-- The tests are not the same if a lookahead is left over at the end. -/
example (s : Scanner) :
    let s' := { s with atEnd := true, lookahead := some '=' }
    (s'.tested (.extensible ':')).isSome ∧ s'.current.bind (Draft.extensible ':').extend = none :=
  ⟨rfl, rfl⟩

/-- A step that is taken has a lookahead in front of it. -/
theorem Coherent.exists_current (h : s.Coherent) (hd : s.tested d = some d') :
    ∃ c, s.current = some c ∧ d.extend c = some d' :=
  Option.bind_eq_some_iff.1 ((h.tested_eq d).symm.trans hd)

theorem Coherent.exists_trace (h : s.Coherent) (d : Draft) (p : Position) :
    ∃ ms, Trace d p s ms (s.scan d p) := by
  fun_induction scan d p s with
  | case1 d p s hd => exact ⟨[], .finished ((h.tested_eq d).trans hd)⟩
  | case2 d p s d' hd s' ha ih =>
    obtain ⟨ms, ht⟩ := ih (h.of_advance ha)
    exact ⟨s :: ms, .onward ((h.tested_eq d).trans hd) ha ht⟩
  | case3 d p s d' hd e s' ha => exact ⟨[s], .broken ((h.tested_eq d).trans hd) ha⟩

/-- **A scan that tests less comes to the same.** -/
theorem Trace.eq_scan (ht : Trace d p s ms r) (h : s.Coherent) : r = s.scan d p := by
  -- the scanner behind a step is coherent again, whatever the tests in front of it were
  induction ht with
  | finished hd => rw [scan_stop ((h.tested_eq _).symm.trans hd)]
  | onward hd ha _ ih =>
    obtain ⟨c, hc, he⟩ := h.exists_current hd
    rw [scan_step hc he ha, ih (h.of_advance ha)]
  | broken hd ha =>
    obtain ⟨c, hc, he⟩ := h.exists_current hd
    rw [scan_error hc he ha]

theorem trace_iff (h : s.Coherent) : (∃ ms, Trace d p s ms r) ↔ r = s.scan d p := by
  constructor
  · rintro ⟨ms, ht⟩
    exact ht.eq_scan h
  · rintro rfl
    exact h.exists_trace d p

/-- **A scan takes a step only in front of the end.** -/
theorem Trace.forall_mem (ht : Trace d p s ms r) (h : s.Coherent) :
    ∀ m ∈ ms, m.Coherent ∧ ∃ c, m.current = some c := by
  induction ht with
  | finished => simp
  | onward hd ha _ ih =>
    obtain ⟨c, hc, -⟩ := h.exists_current hd
    exact List.forall_mem_cons.2 ⟨⟨h, c, hc⟩, ih (h.of_advance ha)⟩
  | broken hd =>
    obtain ⟨c, hc, -⟩ := h.exists_current hd
    exact List.forall_mem_singleton.2 ⟨h, c, hc⟩

/-! ### Errors of a scan -/

/-- An error that a step meets is the result of the scan. -/
theorem Trace.eq_of_mem (ht : Trace d p s ms r) (hm : m ∈ ms) (ha : m.advance = (.error e, m')) :
    r = (.error e, m') := by
  induction ht with
  | finished => cases hm
  | onward _ ha' _ ih =>
    rcases List.mem_cons.1 hm with rfl | hm
    · rw [ha] at ha'
      cases ha'
    · exact ih hm
  | broken _ ha' =>
    obtain rfl := List.mem_singleton.1 hm
    rw [ha] at ha'
    cases ha'
    rfl

/-- A scan that ends with an error has met it at a step. -/
theorem Trace.exists_mem (ht : Trace d p s ms r) (hr : r.1 = .error e) :
    ∃ m ∈ ms, m.advance.1 = .error e := by
  induction ht with
  | finished => cases hr
  | onward _ _ _ ih =>
    obtain ⟨m, hm, ha⟩ := ih hr
    exact ⟨m, List.mem_cons_of_mem _ hm, ha⟩
  | @broken _ _ _ s _ _ _ ha =>
    cases hr
    exact ⟨s, List.mem_singleton_self s, by rw [ha]⟩

/-- **An error that is none of a character changes nothing but the source.** -/
theorem advance_of_read_error (he : m.atEnd = false) (hs : m.source = some source)
    (hr : source.read.1 = .error e) (hx : ∀ x, e ≠ .unreadable x) :
    m.advance = (.error e, { m with source := some source.read.2 }) := by
  cases e with
  | unreadable x => exact absurd rfl (hx x)
  | closed | missingByteOrderMark | undefinedEncoding => simp only [advance, he, hs, hr]

theorem exists_read_of_advance_error (ha : m.advance.1 = .error e) :
    ∃ source, m.source = some source ∧ source.read.1 = .error e := by
  unfold advance at ha
  split at ha
  · next source _ hs =>
    refine ⟨source, hs, ?_⟩
    split at ha
    · cases ha
    · cases ha
    all_goals
      next h =>
      cases ha
      exact h
  · cases ha

/-! ### All tokens -/

/-- The second scanner is the first one behind some tokens, none of which is the end token. -/
inductive Leads : Scanner → Scanner → Prop where
  | refl (s : Scanner) : Leads s s
  | token {s s' t : Scanner} {u : Token} : s.nextToken = (.ok u, s') → u.isEndOfFile = false →
      Leads s' t → Leads s t

theorem Leads.coherent (hl : Leads s t) (h : s.Coherent) : t.Coherent := by
  induction hl with
  | refl => exact h
  | token hn _ _ ih =>
    have h' := h.nextToken
    rw [hn] at h'
    exact ih h'

theorem Leads.tokenize (hl : Leads s t) (hn : t.nextToken = (.error e, t')) :
    s.tokenize = (.error e, t') := by
  induction hl with
  | refl => rw [tokenize_eq, hn]
  | token hu hne _ ih =>
    rw [tokenize_eq, hu]
    simp [hne, ih hn]

theorem exists_leads_of_tokenize (ht : s.tokenize.1 = .error e) :
    ∃ t, Leads s t ∧ t.nextToken.1 = .error e := by
  fun_induction tokenize s with
  | case1 s e' s' hn =>
    cases ht
    exact ⟨s, .refl s, by rw [hn]⟩
  | case2 | case3 => cases ht
  | case4 s u s' hn hu e' s'' hts ih =>
    rw [hts] at ih
    obtain ⟨t, hl, ht⟩ := ih ht
    exact ⟨t, .token hn (by simpa using hu) hl, ht⟩

end Scanner

namespace Session

open Scanner (Coherent Leads Made Trace)

variable {s : Session} {x : SessionStep} {t t' m : Scanner} {e : ReadError}

/-- The scanners that are asked for a token in a step. -/
def Asks (s : Session) : SessionStep → Scanner → Prop
  | .next, t | .closingNext, t => t = s.scanner
  | .resume index, t => s.iterations[index]? = some .running ∧ t = s.scanner
  | .tokenize, t | .list, t | .print, t => Leads s.scanner t
  | .iterate, _ | .readChar, _ | .openError, _ | .close, _ => False

/-- The scanners that take a step of their own in a step of the session, while they scan for a
token. -/
def Advances (s : Session) (x : SessionStep) (m : Scanner) : Prop :=
  ∃ t ms r, s.Asks x t ∧ Trace .gap t.position t ms r ∧ m ∈ ms

/-- The scanners whose source is read in a step, by themselves or behind their back. -/
def Reads (s : Session) (x : SessionStep) (m : Scanner) : Prop :=
  s.Advances x m ∨ x = .readChar ∧ m = s.scanner

theorem Asks.coherent (h : s.Asks x t) (hs : s.scanner.Coherent) : t.Coherent := by
  cases x with
  | next | closingNext =>
    obtain rfl : t = s.scanner := h
    exact hs
  | resume index =>
    obtain ⟨-, rfl⟩ := h
    exact hs
  | tokenize | list | print => exact Leads.coherent h hs
  | iterate | readChar | openError | close => exact h.elim

/-- An error instead of a token is an error of the step. The step may close the source then. -/
theorem Asks.step_of_error (h : s.Asks x t) (hn : t.nextToken = (.error e, t')) :
    (s.step x).1 = .error e ∧ ∃ source, (s.step x).2.scanner = { t' with source } := by
  cases x with
  | next =>
    obtain rfl : t = s.scanner := h
    rw [step, answer, hn]
    exact ⟨rfl, t'.source, rfl⟩
  | closingNext =>
    obtain rfl : t = s.scanner := h
    rw [step, answer, Scanner.closingNext, hn]
    exact ⟨rfl, t'.source.map Source.close, rfl⟩
  | resume index =>
    obtain ⟨hi, rfl⟩ := h
    rw [step, resume, hi, hn]
    exact ⟨rfl, t'.source, rfl⟩
  | tokenize | list | print =>
    simp only [step, answer, Scanner.tokens, Scanner.print, Leads.tokenize h hn]
    exact ⟨rfl, t'.source, rfl⟩
  | iterate | readChar | openError | close => exact h.elim

theorem eq_error_of_map {α β : Type} {r : Except ReadError α} {f : α → β}
    (h : r.map f = .error e) : r = .error e := by
  cases r with
  | ok a => cases h
  | error e' =>
    cases h
    rfl

/-- An error of a step is one of the source that the step takes a character from, or stands for a
token that the step asks for. -/
theorem exists_asks_of_step (h : (s.step x).1 = .error e) :
    (x = .readChar ∧ ∃ source, s.scanner.source = some source ∧ source.read.1 = .error e) ∨
      ∃ t, s.Asks x t ∧ t.nextToken.1 = .error e := by
  cases x with
  | next | closingNext => exact Or.inr ⟨s.scanner, rfl, eq_error_of_map h⟩
  | resume index =>
    rw [step, resume] at h
    split at h
    · next hi =>
      refine Or.inr ⟨s.scanner, ⟨hi, rfl⟩, ?_⟩
      cases hn : s.scanner.nextToken.1 with
      | ok u =>
        simp only [hn] at h
        split at h
        all_goals cases h
      | error e' =>
        simp only [hn] at h
        cases h
        rfl
    · cases h
  | tokenize => exact Or.inr (Scanner.exists_leads_of_tokenize (eq_error_of_map h))
  | list | print =>
    have ht := eq_error_of_map (eq_error_of_map h)
    exact Or.inr (Scanner.exists_leads_of_tokenize ht)
  | readChar =>
    have hr := eq_error_of_map h
    unfold Scanner.readSource at hr
    split at hr
    · next source hs => exact Or.inl ⟨rfl, source, hs, hr⟩
    · cases hr
  | iterate | openError | close => cases h

/-! ### All steps of a session -/

theorem coherent_after (hs : t.Coherent) (xs : List SessionStep) :
    ((ofScanner t).after xs).scanner.Coherent := by
  refine after_invariant (P := Coherent) ?_ hs xs
  intro t r h ht
  exact h.invariant (fun _ h => h.advance) (fun h => h.readSource) (fun h => h.close) ht

theorem Advances.before_end (h : s.Advances x m) (hs : s.scanner.Coherent) :
    m.atEnd = false ∧ m.lookahead.isSome = true ∧ m.source.isSome = true := by
  obtain ⟨t, ms, r, hask, ht, hm⟩ := h
  obtain ⟨hcoh, c, hc⟩ := ht.forall_mem (hask.coherent hs) m hm
  have he := Scanner.atEnd_of_current hc
  rw [hcoh.current_eq] at hc
  exact ⟨he, by simp [hc], hcoh.source he⟩

/-- **An error that is none of a character leaves the scanner as it was in front of the read.** -/
theorem Reads.step_of_error {source : Source} (h : s.Reads x m) (hs : s.scanner.Coherent)
    (hsource : m.source = some source) (hr : source.read.1 = .error e)
    (hx : ∀ u, e ≠ .unreadable u) :
    (s.step x).1 = .error e ∧ ∃ source', (s.step x).2.scanner = { m with source := source' } := by
  rcases h with h | ⟨rfl, rfl⟩
  · obtain ⟨he, -, -⟩ := h.before_end hs
    obtain ⟨t, ms, r, hask, ht, hm⟩ := h
    have hr := ht.eq_of_mem hm (Scanner.advance_of_read_error he hsource hr hx)
    have hn : t.nextToken = (.error e, { m with source := some source.read.2 }) :=
      (ht.eq_scan (hask.coherent hs)).symm.trans hr
    obtain ⟨herror, source', hs'⟩ := hask.step_of_error hn
    exact ⟨herror, source', hs'⟩
  · rw [step, answer, Scanner.readSource, hsource]
    refine ⟨?_, some source.read.2, rfl⟩
    rw [hr]
    rfl

/-- An error of a step comes of a read. -/
theorem exists_reads_of_step (hs : s.scanner.Coherent) (h : (s.step x).1 = .error e) :
    ∃ m source, s.Reads x m ∧ m.source = some source ∧ source.read.1 = .error e := by
  rcases exists_asks_of_step h with ⟨rfl, source, hsource, hr⟩ | ⟨t, hask, hn⟩
  · exact ⟨s.scanner, source, Or.inr ⟨rfl, rfl⟩, hsource, hr⟩
  · obtain ⟨ms, ht⟩ := (hask.coherent hs).exists_trace .gap t.position
    obtain ⟨m, hm, ha⟩ := ht.exists_mem hn
    obtain ⟨source, hsource, hr⟩ := Scanner.exists_read_of_advance_error ha
    exact ⟨m, source, Or.inl ⟨t, ms, _, hask, ht, hm⟩, hsource, hr⟩

/-- **A scanner is at its end where it has no lookahead, and only there.** This is so however the
scanner was made and whatever steps were taken, those with errors too. So it does not matter which
of the two a scan tests: it takes its steps in front of the end, with a source to read from. All
errors are those of reads, and one that is none of a character leaves the scanner as it was in front
of the read, its source aside. -/
theorem atEnd_iff_lookahead_eq_none {s₀ : Scanner} (h₀ : s₀.Made) (xs : List SessionStep) :
    let s := (ofScanner s₀).after xs
    (s.scanner.atEnd = true ↔ s.scanner.lookahead = none) ∧
    ∀ x : SessionStep,
      (∀ t, s.Asks x t → ∀ r, (∃ ms, Trace .gap t.position t ms r) ↔ r = t.nextToken) ∧
      (∀ m, s.Advances x m →
        m.atEnd = false ∧ m.lookahead.isSome = true ∧ m.source.isSome = true) ∧
      (∀ m source e, s.Reads x m → m.source = some source → source.read.1 = .error e →
        (∀ u, e ≠ .unreadable u) →
        (s.step x).1 = .error e ∧ ∃ source', (s.step x).2.scanner = { m with source := source' }) ∧
      ∀ e, (s.step x).1 = .error e →
        ∃ m source, s.Reads x m ∧ m.source = some source ∧ source.read.1 = .error e := by
  intro s
  have hs : s.scanner.Coherent := coherent_after h₀.coherent xs
  refine ⟨hs.atEnd_iff, fun x => ⟨?_, ?_, ?_, ?_⟩⟩
  · intro t hask r
    exact Scanner.trace_iff (hask.coherent hs)
  · intro m h
    exact h.before_end hs
  · intro m source e h hsource hr hx
    exact h.step_of_error hs hsource hr hx
  · intro e h
    exact exists_reads_of_step hs h

/-- The stream is closed where a letter is the lookahead and its accent is decoded. The call that is
refused then has taken a step to the accent, which stays the lookahead. -/
theorem atEnd_iff_lookahead_eq_none_pair :
    let stream := ByteStream.ofFile [0x61, 0x88, 0x62, 0x62]
    let s₀ := Scanner.ofSource (.bytes (.ofStream stream none .big5hkscs))
    let s := (ofScanner s₀).after [.next, .close]
    s₀.Made ∧ s.scanner.lookahead = some 'Ê' ∧ (s.step .next).1 = .error (.closed .file) ∧
      (s.step .next).2.scanner.atEnd = false ∧
      ∃ m source, s.Advances .next m ∧ m.lookahead = some '\u0304' ∧
        (s.step .next).2.scanner = { m with source } := by
  intro stream s₀ s
  have hmade : s₀.Made := .ofSource (.bytes (.ofStream stream none .big5hkscs)) none
  have hlook : s.scanner.lookahead = some 'Ê' := by with_unfolding_all rfl
  have hstep : (s.step .next).1 = .error (.closed .file) := by with_unfolding_all rfl
  have hend : (s.step .next).2.scanner.atEnd = false := by with_unfolding_all rfl
  have hafter : (s.step .next).2.scanner.lookahead = some '\u0304' := by with_unfolding_all rfl
  obtain ⟨-, h⟩ := atEnd_iff_lookahead_eq_none hmade [.next, .close]
  obtain ⟨-, -, hkeeps, herrors⟩ := h .next
  obtain ⟨m, source, hm, hsource, hr⟩ := herrors _ hstep
  obtain ⟨-, source', hs'⟩ := hkeeps m source _ hm hsource hr (by simp)
  have hadv : s.Advances .next m := hm.resolve_right fun h => nomatch h.1
  rw [hs'] at hafter
  exact ⟨hmade, hlook, hstep, hend, m, source', hadv, hafter, hs'⟩

end Session

end KayLexer
