import KayLexer.Source.Bytes
import KayLexer.Source.Text

/-!
Sources: where characters come from, one at a time, each with its position.
-/

namespace KayLexer

/-- A text at hand, or a byte stream that is decoded. -/
inductive Source where
  | text (s : TextSource)
  | bytes (s : ByteSource)

namespace Source

def ofString (text : String) : Source := .text (.ofString text)

/-- The position of the next character. -/
def position : Source → Position
  | text s => s.position
  | bytes s => s.position

/-- The file that the characters come from. -/
def path? : Source → Option SourcePath
  | text _ => none
  | bytes s => s.path

/-- The byte stream that the characters come from. -/
def stream? : Source → Option ByteStream
  | text _ => none
  | bytes s => some s.stream

/-- Closes the stream. A text cannot be closed. -/
def close : Source → Source
  | text s => text s
  | bytes s => bytes s.close

/-- The next character, or `none` at the end of the input. -/
def read : Source → Except ReadError (Option Char) × Source
  | text s => (.ok s.read.1, text s.read.2)
  | bytes s => (s.read.1, bytes s.read.2)

/-! ### Reading on -/

/-- A bound on the characters still to come. -/
def remaining : Source → Nat
  | text s => s.rest.length
  | bytes s => s.remaining

theorem remaining_read_lt {s s' : Source} {c : Char} (h : s.read = (.ok (some c), s')) :
    s'.remaining < s.remaining := by
  cases s with
  | text s =>
    cases hr : s.rest with
    | nil => simp [read, TextSource.read_nil hr] at h
    | cons d ds =>
      rw [read, TextSource.read_cons hr] at h
      cases h
      simp [remaining, hr]
  | bytes s =>
    obtain ⟨h₁, rfl⟩ := Prod.mk.inj h
    exact ByteSource.remaining_read_lt (Prod.ext h₁ rfl)

theorem remaining_read_le (s : Source) : s.read.2.remaining ≤ s.remaining := by
  cases s with
  | text s =>
    cases hr : s.rest with
    | nil => simp [read, TextSource.read_nil hr, remaining]
    | cons c cs => simp [read, TextSource.read_cons hr, remaining, hr]
  | bytes s => exact s.remaining_read_le

/-- The characters up to the end of the input. An error loses the ones read before it. -/
def readAll (s : Source) : Except ReadError (List Char) × Source :=
  match _h : s.read with
  | (.ok (some c), s') =>
    match s'.readAll with
    | (.ok cs, s'') => (.ok (c :: cs), s'')
    | (.error e, s'') => (.error e, s'')
  | (.ok none, s') => (.ok [], s')
  | (.error e, s') => (.error e, s')
termination_by s.remaining
decreasing_by exact remaining_read_lt _h

end Source

end KayLexer
