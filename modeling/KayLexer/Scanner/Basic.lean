import KayLexer.Draft
import KayLexer.Log
import KayLexer.Source.Basic

/-!
The scanner. It looks one character ahead of what it has put into a token, extends a draft with
that character while it can, and gives out the token when it cannot. Once the end of the input is
reached, by a read that gave nothing or by a failure, the source is left alone. Main statement: a
token other than the end token takes something from what is left, so that asking for tokens until
the end token comes to an end.
-/

namespace KayLexer

/-- A scanner between two tokens. `position` is that of the lookahead, and of the end of the input
once it is reached. -/
structure Scanner where
  source : Option Source
  /-- Why there is no source, where opening one was tried. -/
  openError : Option NotFound
  atEnd : Bool
  lookahead : Option Char
  position : Position
  /-- All records so far, the oldest first. -/
  log : List LogRecord

namespace Scanner

/-! ### Beginning and closing -/

/-- A scanner that looks at a blank in front of the first character of a source. -/
def ofSource (source : Source) : Scanner where
  source := some source
  openError := none
  atEnd := false
  lookahead := some ' '
  position := source.position
  log := []

def ofString (text : String) : Scanner := ofSource (.ofString text)

/-- A scanner with nothing to scan. -/
def absent (openError : Option NotFound) : Scanner where
  source := none
  openError := openError
  atEnd := true
  lookahead := none
  position := .start
  log := []

def close (s : Scanner) : Scanner := { s with source := s.source.map Source.close }

/-- The scanner with one more record in its log. -/
def record (s : Scanner) (severity : Severity) (message : String) : Scanner :=
  { s with log := s.log ++ [⟨severity, .scanner, message⟩] }

/-! ### One step ahead -/

/-- The character the scanner looks at, which is none at the end of the input. -/
def current (s : Scanner) : Option Char := if s.atEnd then none else s.lookahead

/-- What is recorded where the input ends. -/
def endMessage (p : Position) : String := "Reached end of input at " ++ p.render ++ "."

/-- What is recorded where a character could not be read. -/
def stopMessage (e : Unreadable) : String := "Scanning stopped: " ++ e.message

/-- The scanner at the end of its input, which it records. -/
def stop (s : Scanner) (position : Position) (severity : Severity) (message : String) : Scanner :=
  { s.record severity message with atEnd := true, lookahead := none, position }

/-- The next character becomes the lookahead. An unreadable character is an end of the input; any
other error leaves the scanner as it was. -/
def advance (s : Scanner) : Except ReadError Unit × Scanner :=
  match s.atEnd, s.source with
  | false, some source =>
    let s' := { s with source := some source.read.2 }
    match source.read.1 with
    | .ok (some c) => (.ok (), { s' with lookahead := some c, position := source.position })
    | .ok none => (.ok (), s'.stop source.position .debug (endMessage source.position))
    | .error (.unreadable e) =>
      (.error (.unreadable e), s'.stop source.position .error (stopMessage e))
    | .error e => (.error e, s')
  | _, _ => (.ok (), { s with lookahead := none })

/-- A bound on the steps still to come. -/
def remaining (s : Scanner) : Nat :=
  (s.source.elim 0 Source.remaining) + (if s.current.isSome then 1 else 0)

theorem current_of_atEnd {s : Scanner} (h : s.atEnd = true) : s.current = none := if_pos h

theorem atEnd_of_current {s : Scanner} {c : Char} (h : s.current = some c) : s.atEnd = false := by
  unfold current at h
  split at h <;> simp_all

theorem remaining_of_source {s : Scanner} {source : Source} (h : s.source = some source) :
    s.remaining = source.remaining + if s.current.isSome then 1 else 0 := by
  simp [remaining, h]

theorem remaining_advance_lt {s s' : Scanner} {c : Char} (hc : s.current = some c)
    (h : s.advance = (.ok (), s')) : s'.remaining < s.remaining := by
  have he := atEnd_of_current hc
  cases hs : s.source with
  | none =>
    simp only [advance, he, hs] at h
    cases h
    simp [remaining, current, he, hs] at hc ⊢
    simp [hc]
  | some source =>
    have hle := source.remaining_read_le
    simp only [advance, he, hs] at h
    rw [remaining_of_source hs, hc]
    split at h <;> cases h
    · rename_i d hr
      have := Source.remaining_read_lt (Prod.ext hr rfl)
      exact Nat.succ_lt_succ this
    · exact Nat.lt_succ_of_le hle

/-! ### Tokens -/

/-- Extends the draft `d`, whose first character stands at `start`, until it is finished. -/
def scan (d : Draft) (start : Position) (s : Scanner) : Except ReadError Token × Scanner :=
  match _hd : s.current.bind d.extend with
  | none => (.ok (d.token start s.position), s)
  | some d' =>
    match _hs : s.advance with
    | (.ok (), s') => scan d' (if d.isGap then s.position else start) s'
    | (.error e, s') => (.error e, s')
termination_by s.remaining
decreasing_by
  obtain ⟨c, hc, _⟩ := Option.bind_eq_some_iff.1 _hd
  exact remaining_advance_lt hc _hs

/-- The next token. At the end of the input it is the end token, as often as it is asked for. -/
def nextToken (s : Scanner) : Except ReadError Token × Scanner := scan .gap s.position s

theorem remaining_scan_le {d : Draft} {p : Position} {s s' : Scanner} {t : Token}
    (h : s.scan d p = (.ok t, s')) : s'.remaining ≤ s.remaining := by
  fun_induction scan d p s with
  | case1 => cases h; exact Nat.le_refl _
  | case2 d p s d' hd s₁ hs ih =>
    obtain ⟨c, hc, _⟩ := Option.bind_eq_some_iff.1 hd
    exact Nat.le_of_lt (Nat.lt_of_le_of_lt (ih h) (remaining_advance_lt hc hs))
  | case3 => cases h

/-- **A token other than the end token takes something from what is left.** -/
theorem remaining_nextToken_lt {s s' : Scanner} {t : Token} (h : s.nextToken = (.ok t, s'))
    (ht : t.isEndOfFile = false) : s'.remaining < s.remaining := by
  unfold nextToken scan at h
  split at h
  · cases h
    cases ht
  · rename_i d' hd
    obtain ⟨c, hc, _⟩ := Option.bind_eq_some_iff.1 hd
    split at h
    · rename_i s₁ hs
      exact Nat.lt_of_le_of_lt (remaining_scan_le h) (remaining_advance_lt hc hs)
    · cases h

end Scanner

end KayLexer
