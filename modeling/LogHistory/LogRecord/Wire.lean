import LogHistory.LogRecord.Basic
import LogHistory.NodeId.Wire
import LogHistory.Scalar.Wire
import LogHistory.Time.Ticks

/-!
# Log records on the wire

The fields follow one another: time, severity, event type, source node, source name, message, trace
context, attributes. The message is a text with a mask in front that says whether a locale and the
text itself follow; the locale is read and dropped, and never written. The attributes are a signed
32-bit count and as many names with values; a count that is not positive has none. A value without a
name is read and dropped.

A record ends where its last field ends, so it can be read from the front of a longer byte string,
and a string of records one after another (`decodeAll`).
-/

namespace LogHistory

namespace LogRecord

/-- The wire form of a time that may be unset. -/
def encodeTime : Option Instant → Write.Result
  | none => .ok (LittleEndian.encode 8 0)
  | some t =>
    match Ticks.ofInstant? t with
    | some ticks => .ok (Write.uint64 ticks.toUInt64)
    | none => .error (.timeOutOfRange t)

/-- The mask of a message with a text and no locale. -/
def textMask : UInt8 := 2

/-- The wire form of a message. -/
def encodeMessage (message : String) : Write.Result := do
  return textMask :: (← Write.text message)

/-- The wire form of an attribute. A fault of its value names the attribute. -/
def encodeAttribute (e : String × Scalar) : Write.Result := do
  let key ← Write.text e.1
  match e.2.encode with
  | .ok value => return key ++ value
  | .error cause => throw (.inAttribute e.1 cause)

/-- The wire forms of attributes, one after another. -/
def encodeEntries : List (String × Scalar) → Write.Result
  | [] => .ok []
  | e :: es => do
    let first ← encodeAttribute e
    return first ++ (← encodeEntries es)

/-- The wire form of a record's attributes. -/
def encodeAttributes (a : Attributes) : Write.Result := do
  let count ← Write.length a.size
  return count ++ (← encodeEntries a.entries)

/-- The wire form of a record. -/
def encode (r : LogRecord) : Write.Result := do
  let time ← encodeTime r.time
  let eventType ← NodeId.encode? r.eventType
  let sourceNode ← NodeId.encode? r.sourceNode
  let sourceName ← Write.text? r.sourceName
  let message ← encodeMessage r.message
  let trace ← TraceContext.encode? r.trace
  let attributes ← encodeAttributes r.attributes
  return time ++ Write.uint16 r.severity ++ eventType ++ sourceNode ++ sourceName ++ message
    ++ trace ++ attributes

end LogRecord

namespace Read

/-- A message: its text, without the locale. -/
def message : Read String := do
  let mask ← byte
  let _ ← if mask.toNat % 2 = 1 then text? else pure none
  if mask.toNat / 2 % 2 = 1 then text else return ""

/-- Up to `n` values, each with its name if it has one. Stops at the first fault. -/
def entries : Nat → Read (List (Option String × Scalar))
  | 0 => return []
  | n + 1 => do
    let key ← text?
    let value ← scalar
    if ← faulted then return []
    else return (key, value) :: (← entries n)

/-- The attributes of a record. -/
def attributes : Read Attributes := do
  let count ← int32
  return .ofNamed (← entries count.toInt.toNat)

/-- A record. -/
def logRecord : Read LogRecord := do
  let ticks ← int64
  let severity ← uint16
  let eventType ← nodeId?
  let sourceNode ← nodeId?
  let sourceName ← text?
  let message ← message
  let trace ← traceContext?
  let attributes ← attributes
  return ⟨Ticks.toInstant? ticks, severity, message, eventType, sourceNode, sourceName, trace,
    attributes⟩

end Read

namespace LogRecord

/-- Reads a record from the start of a byte string. -/
def decode (data : Bytes) : Except DecodeError (LogRecord × Nat) := decodeWith Read.logRecord data

/-- Reads records one after another until the bytes end or one of them cannot be read. Each record
takes at least one byte, so there are at most as many as there are bytes. -/
def decodeAll (data : Bytes) : List (Except DecodeError (LogRecord × Nat)) :=
  decodeUpTo decode data.length data

end LogRecord

end LogHistory
