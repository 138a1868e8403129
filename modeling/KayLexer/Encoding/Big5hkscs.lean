import KayLexer.Encoding.Big5hkscs.Table
import KayLexer.Encoding.Utf8

/-!
Big5-HKSCS, one byte at a time. ASCII is as it is. Any other byte is the first one of two, which
stand for one character or, four times, for two.
-/

namespace KayLexer.Encoding.Big5hkscs

/-- The two bytes that stand for two characters, a letter and its accent. -/
def pairs : List ((UInt8 × UInt8) × List Char) :=
  [((0x88, 0x62), ['\u00ca', '\u0304']), ((0x88, 0x64), ['\u00ca', '\u030c']),
   ((0x88, 0xa3), ['\u00ea', '\u0304']), ((0x88, 0xa5), ['\u00ea', '\u030c'])]

/-- The character at a place of the table. -/
def charAt? (rows : List String) (row column : Nat) : Option Char :=
  (rows[row]?.bind (·.toList[column]?)).filter (· ≠ ' ')

/-- The one character of two bytes. -/
def char? (a b : UInt8) : Option Char :=
  if a < 0x87 then none
  else if 0x40 ≤ b ∧ b < 0x7f then charAt? lowRows (a.toNat - 0x87) (b.toNat - 0x40)
  else if 0xa1 ≤ b then charAt? highRows (a.toNat - 0x87) (b.toNat - 0xa1)
  else none

/-- The characters of two bytes. -/
def chars? (a b : UInt8) : Option (List Char) :=
  (pairs.lookup (a, b)).or ((char? a b).map fun c => [c])

/-- The byte `b` behind the kept ones. -/
def read (kept : List UInt8) (b : UInt8) : Reading :=
  match kept with
  | [] => if b < 0x80 then .chars [Char.ofNat b.toNat] else .incomplete
  | a :: _ =>
    match chars? a b with
    | some cs => .chars cs
    | none => .malformed ⟨.big5hkscs, a, [], .multibyteSequence⟩

/-- The end of the input behind the kept bytes. -/
def finish : List UInt8 → Option Malformed
  | [] => none
  | a :: rest => some ⟨.big5hkscs, a, rest, .incompleteSequence⟩

/-! ### How many characters two bytes stand for -/

theorem chars?_cases {a b : UInt8} {cs : List Char} (h : chars? a b = some cs) :
    ((a, b), cs) ∈ pairs ∨ ∃ c, cs = [c] := by
  rcases Option.or_eq_some_iff.1 h with hpair | ⟨-, hchar⟩
  · obtain ⟨l₁, l₂, hpairs, -⟩ := List.lookup_eq_some_iff.1 hpair
    rw [hpairs]
    exact Or.inl (by simp)
  · obtain ⟨c, -, hc⟩ := Option.map_eq_some_iff.1 hchar
    exact Or.inr ⟨c, hc.symm⟩

theorem length_of_mem_pairs {p : (UInt8 × UInt8) × List Char} (h : p ∈ pairs) :
    p.2.length = 2 := by
  simp only [pairs, List.mem_cons, List.not_mem_nil, or_false] at h
  rcases h with rfl | rfl | rfl | rfl <;> rfl

/-- A byte completes one character, or the two of a pair. -/
theorem read_cases {kept : List UInt8} {b : UInt8} {cs : List Char} (h : read kept b = .chars cs) :
    (∃ c, cs = [c]) ∨ ∃ a, ((a, b), cs) ∈ pairs := by
  unfold read at h
  split at h
  · split at h <;> cases h
    exact Or.inl ⟨_, rfl⟩
  · next a rest =>
    split at h <;> cases h
    rename_i hchars
    rcases chars?_cases hchars with hpair | hc
    · exact Or.inr ⟨a, hpair⟩
    · exact Or.inl hc

end KayLexer.Encoding.Big5hkscs
