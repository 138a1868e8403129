import KayLexer.Proofs.Tokenization

/-!
Characters that go to two parties. A source that is shared gives each of its characters to one of
the two who read it, so that the characters of the scanner are spread over the text. Main statement:
where a character of the scanner stands in the text does not change by what is given later.
-/

namespace KayLexer

open Position (start)

/-- Who reads a source that is shared. -/
inductive Party where
  | scanner
  | reader
  deriving DecidableEq

/-- Characters in the order in which they were given, each with the one who got it. -/
abbrev Deliveries := List (Party × Char)

namespace Deliveries

/-- The characters, whoever got them. -/
def chars (ds : Deliveries) : List Char := ds.map Prod.snd

/-- The characters that one of the two got. -/
def takenBy (ds : Deliveries) (p : Party) : List Char := (ds.filter (·.1 = p)).map Prod.snd

/-- Characters that one of the two gets. -/
def ofChars (p : Party) (cs : List Char) : Deliveries := cs.map fun c => (p, c)

/-- How many characters were given before the one that the scanner got behind `n` others. -/
def indexOf : Deliveries → Nat → Nat
  | [], _ => 0
  | (.reader, _) :: ds, n => indexOf ds n + 1
  | (.scanner, _) :: _, 0 => 0
  | (.scanner, _) :: ds, n + 1 => indexOf ds n + 1

/-- The position of that character, where `before` stands in front of the text `body` whose first
characters were given. -/
def positionOf (ds : Deliveries) (before body : List Char) (n : Nat) : Position :=
  start.afterText (before ++ body.take (ds.indexOf n))

variable {ds es : Deliveries} {before body cs : List Char} {p q : Party} {n : Nat}

@[simp] theorem chars_append : chars (ds ++ es) = ds.chars ++ es.chars := List.map_append

@[simp] theorem chars_ofChars : chars (ofChars p cs) = cs := by
  simp [chars, ofChars, Function.comp_def]

theorem ofChars_append (p : Party) (cs ds : List Char) :
    ofChars p (cs ++ ds) = ofChars p cs ++ ofChars p ds := List.map_append

@[simp] theorem takenBy_append : takenBy (ds ++ es) p = ds.takenBy p ++ es.takenBy p := by
  simp [takenBy]

@[simp] theorem takenBy_ofChars : takenBy (ofChars p cs) p = cs := by
  simp [takenBy, ofChars, List.filter_map, Function.comp_def]

theorem takenBy_ofChars_of_ne (h : p ≠ q) : takenBy (ofChars p cs) q = [] := by
  simp [takenBy, ofChars, List.filter_map, Function.comp_def, h]

@[simp] theorem takenBy_scanner_cons_scanner (c : Char) :
    takenBy ((.scanner, c) :: ds) .scanner = c :: ds.takenBy .scanner := rfl

@[simp] theorem takenBy_scanner_cons_reader (c : Char) :
    takenBy ((.reader, c) :: ds) .scanner = ds.takenBy .scanner := rfl

theorem length_chars (ds : Deliveries) : ds.chars.length = ds.length := List.length_map _

/-! ### Where the scanner's characters stand -/

/-- What is given later does not move a character. -/
theorem indexOf_append_of_lt (h : n < (ds.takenBy .scanner).length) :
    indexOf (ds ++ es) n = ds.indexOf n := by
  induction ds generalizing n with
  | nil => cases h
  | cons d ds ih =>
    obtain ⟨p, c⟩ := d
    cases p with
    | reader => exact congrArg (· + 1) (ih h)
    | scanner =>
      cases n with
      | zero => rfl
      | succ n => exact congrArg (· + 1) (ih (Nat.lt_of_succ_lt_succ h))

theorem indexOf_append (n : Nat) :
    indexOf (ds ++ es) ((ds.takenBy .scanner).length + n) = ds.length + es.indexOf n := by
  induction ds with
  | nil => simp [takenBy]
  | cons d ds ih =>
    obtain ⟨p, c⟩ := d
    cases p with
    | reader =>
      rw [takenBy_scanner_cons_reader, List.cons_append, indexOf, ih, List.length_cons]
      omega
    | scanner =>
      rw [takenBy_scanner_cons_scanner, List.cons_append, List.length_cons, Nat.add_right_comm,
        indexOf, ih, List.length_cons]
      omega

theorem indexOf_ofChars (h : n ≤ cs.length) : indexOf (ofChars .scanner cs) n = n := by
  induction cs generalizing n with
  | nil => exact (Nat.le_zero.1 h).symm
  | cons c cs ih =>
    cases n with
    | zero => rfl
    | succ n => exact congrArg (· + 1) (ih (Nat.le_of_succ_le_succ h))

/-- At that place stands a character of the scanner, the one behind `n` others. -/
theorem getElem?_indexOf (h : n < (ds.takenBy .scanner).length) :
    ds[ds.indexOf n]? = (ds.takenBy .scanner)[n]?.map fun c => (.scanner, c) := by
  induction ds generalizing n with
  | nil => cases h
  | cons d ds ih =>
    obtain ⟨p, c⟩ := d
    cases p with
    | reader => exact ih h
    | scanner =>
      cases n with
      | zero => rfl
      | succ n => exact ih (Nat.lt_of_succ_lt_succ h)

theorem positionOf_append_of_lt (h : n < (ds.takenBy .scanner).length) :
    positionOf (ds ++ es) before body n = ds.positionOf before body n := by
  rw [positionOf, positionOf, indexOf_append_of_lt h]

/-- The characters that the scanner gets in one piece stand in the text in one piece. -/
theorem positionOf_append (before xs : List Char) {r rest : List Char}
    (hr : ds.takenBy .scanner = r) (h : body = ds.chars ++ (cs ++ rest)) (hn : n ≤ cs.length) :
    positionOf (ds ++ ofChars .scanner (cs ++ xs)) before body (r.length + n) =
      (start.afterText (before ++ ds.chars)).afterText (cs.take n) := by
  have hle : n ≤ (cs ++ xs).length := by
    rw [List.length_append]
    omega
  have htake : body.take (ds.length + n) = ds.chars ++ cs.take n := by
    rw [h, ← ds.length_chars, List.take_length_add_append, List.take_append_of_le_length hn]
  rw [positionOf, ← hr, indexOf_append, indexOf_ofChars hle, htake, ← List.append_assoc,
    Position.afterText_append]

end Deliveries

end KayLexer
