import LogHistory.Bytes.LittleEndian
import LogHistory.Time.Calendar

/-!
# Windows and requests

A window is the stretch of time whose records are asked for, ends included, with the least severity.
A request asks one log object for the next page of a window: at most so many records, from the start
or from where the token of the page before points.
-/

namespace LogHistory

/-- A stretch of time and a least severity. -/
structure Window where
  /-- The first instant. -/
  start : Instant
  /-- The last instant. -/
  stop : Instant
  /-- The least severity. -/
  floor : UInt16
  /-- The last instant is not before the first. -/
  start_le_stop : start ≤ stop
  deriving DecidableEq, Repr

/-- A window that would end before it starts. -/
structure InvalidWindow where
  /-- The first instant. -/
  start : Instant
  /-- The last instant. -/
  stop : Instant
  deriving DecidableEq, Repr

/-- The wording of the error. -/
def InvalidWindow.message (w : InvalidWindow) : String :=
  "window end " ++ w.stop.text ++ " precedes start " ++ w.start.text

/-- The window between two instants. -/
def Window.make (start stop : Instant) (floor : UInt16) : Except InvalidWindow Window :=
  if h : start ≤ stop then .ok ⟨start, stop, floor, h⟩ else .error ⟨start, stop⟩

/-- An argument of a method call. -/
inductive Argument where
  /-- An instant. -/
  | dateTime (t : Instant)
  /-- A 32-bit number. -/
  | uint32 (n : UInt32)
  /-- A 16-bit number. -/
  | uint16 (n : UInt16)
  /-- A byte string that may be absent. -/
  | byteString (bs : Option Bytes)
  deriving DecidableEq, Repr

/-- The mask that asks for every optional field of a record. -/
def optionalFieldMask : UInt32 := 0x1F

/-- The arguments by which a page of a window is asked for. -/
def Window.arguments (w : Window) (maxRecords : UInt32) (token : Option Bytes) : List Argument :=
  [.dateTime w.start, .dateTime w.stop, .uint32 maxRecords, .uint16 w.floor,
    .uint32 optionalFieldMask, .byteString token]

end LogHistory
