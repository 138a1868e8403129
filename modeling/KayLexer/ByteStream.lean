import KayLexer.OsError

/-!
Byte streams: what each read of an open file or device yields, and how often it was read and
closed.
-/

namespace KayLexer

/-- What one read of a stream yields. -/
inductive StreamEvent where
  | byte (b : UInt8)
  /-- No byte. More may follow at a later read. -/
  | nothing
  | failure (e : OsError)

/-- What stands behind a stream. -/
inductive Medium where
  | device
  | file
  deriving DecidableEq

/-- What is said of a read behind the closing of the stream. -/
def Medium.closedMessage : Medium → String
  | device => "I/O operation on closed file."
  | file => "read of closed file"

/-- A stream: the events still to come, behind which every read yields nothing, and the numbers of
reads and closings so far. -/
structure ByteStream where
  medium : Medium
  events : List StreamEvent
  reads : Nat
  closes : Nat

namespace ByteStream

/-- A stream that nobody has touched. -/
def ofEvents (medium : Medium) (events : List StreamEvent) : ByteStream := ⟨medium, events, 0, 0⟩

/-- The stream of a file. -/
def ofFile (bytes : List UInt8) : ByteStream := ofEvents .file (bytes.map .byte)

def isClosed (s : ByteStream) : Bool := s.closes ≠ 0

/-- Closes the stream, again if need be. -/
def close (s : ByteStream) : ByteStream := { s with closes := s.closes + 1 }

/-- The next event. A closed stream refuses (`none`), which does not count as a read. -/
def read (s : ByteStream) : Option StreamEvent × ByteStream :=
  if s.isClosed then (none, s)
  else match s.events with
    | [] => (some .nothing, { s with reads := s.reads + 1 })
    | e :: es => (some e, { s with events := es, reads := s.reads + 1 })

/-- A byte is read only where it is the next event. -/
theorem events_of_read_byte {s s' : ByteStream} {b : UInt8} (h : s.read = (some (.byte b), s')) :
    s.events = .byte b :: s'.events := by
  unfold read at h
  split at h
  · simp at h
  · split at h <;> simp only [Prod.mk.injEq, Option.some.injEq, reduceCtorEq, false_and] at h
    obtain ⟨rfl, rfl⟩ := h
    assumption

theorem events_length_read_le (s : ByteStream) : s.read.2.events.length ≤ s.events.length := by
  unfold read
  split
  · exact Nat.le_refl _
  · split
    · exact Nat.le_refl _
    · simp_all

end ByteStream

end KayLexer
