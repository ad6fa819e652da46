import LogHistory.LogRecord.Wire
import LogHistory.Wire.FailFast

/-!
# The layout of log records

The grammar of identifiers, scalars and records, field by field, over parsers that stop at the first
fault.

* An identifier is a form in the low four bits of a byte, then what that form has.
* A scalar is a type in the low six bits of a byte, then a value of that type.
* A message is a mask, then a locale if its first bit is set and a text if its second bit is.
* A trace context is a GUID, two span ids and a text; it counts only if the first span id is not
  zero.
* The attributes are a count and as many names with scalars; those without a name do not count.
-/

namespace LogHistory.Parser

/-- An identifier. -/
def nodeId : Parser NodeId := do
  let form ← number 1
  match form % 16 with
  | 0 => return .numeric 0 (.ofNat (← number 1))
  | 1 =>
    let ns ← number 1
    return .numeric (.ofNat ns) (.ofNat (← number 2))
  | 2 =>
    let ns ← number 2
    return .numeric (.ofNat ns) (.ofNat (← number 4))
  | 3 =>
    let ns ← number 2
    return .text (.ofNat ns) (← text)
  | 4 =>
    let _ ← take 2
    let _ ← take 16
    return .null
  | 5 =>
    let _ ← take 2
    let _ ← byteString?
    return .null
  | _ => return .null

/-- An identifier, absent if it is null. -/
def nodeId? : Parser (Option NodeId) := do
  let id ← nodeId
  return if id = .null then none else some id

/-- A scalar. -/
def scalar : Parser Scalar := do
  let tag ← number 1
  match tag % 64 with
  | 0 => return .null
  | 1 => return .bool ((← number 1) ≠ 0)
  | 2 => return .sbyte (.ofInt (← signed 1))
  | 3 => return .byte (.ofNat (← number 1))
  | 4 => return .int16 (.ofInt (← signed 2))
  | 5 => return .uint16 (.ofNat (← number 2))
  | 6 => return .int32 (.ofInt (← signed 4))
  | 7 => return .uint32 (.ofNat (← number 4))
  | 8 => return .int64 (.ofInt (← signed 8))
  | 9 => return .uint64 (.ofNat (← number 8))
  | 10 => return .float (.ofNat (← number 4))
  | 11 => return .double (.ofNat (← number 8))
  | 12 => return .text (← text)
  | other => return .unsupported (.ofNat other)

/-- A message: its text, empty if there is none. -/
def message : Parser String := do
  let mask ← number 1
  if mask % 2 = 1 then
    let _ ← text?
    if mask / 2 % 2 = 1 then text else return ""
  else if mask / 2 % 2 = 1 then text else return ""

/-- Exactly `n` bytes. -/
def fixed (n : Nat) : Parser { bs : Bytes // bs.length = n } := fun p =>
  if h : n ≤ p.unread.length then
    .ok (⟨p.unread.take n, List.length_take_of_le h⟩, ⟨p.unread.drop n, p.offset + n⟩)
  else .error (.unexpectedEnd p.offset n)

/-- A trace id: a word of four bytes, two of two, and eight bytes. -/
def traceId : Parser TraceId := do
  let a ← fixed 4
  let b ← fixed 2
  let c ← fixed 2
  let d ← fixed 8
  return .ofWords a b c d

/-- A trace context, absent if its span id is zero. -/
def traceContext? : Parser (Option TraceContext) := do
  let id ← traceId
  let span ← number 8
  let parent ← number 8
  let origin ← text?
  return if span = 0 then none else some ⟨id, .ofNat span, .ofNat parent, origin⟩

/-- `n` scalars, each with a name that may be absent. -/
def entries : Nat → Parser (List (Option String × Scalar))
  | 0 => return []
  | n + 1 => do
    let key ← text?
    let value ← scalar
    return (key, value) :: (← entries n)

/-- The attributes of a record. -/
def attributes : Parser Attributes := do
  let count ← signed 4
  return .ofNamed (← entries count.toNat)

/-- A record. -/
def logRecord : Parser LogRecord := do
  let ticks ← signed 8
  let severity ← number 2
  let eventType ← nodeId?
  let sourceNode ← nodeId?
  let sourceName ← text?
  let message ← message
  let trace ← traceContext?
  let attributes ← attributes
  return ⟨Ticks.toInstant? (.ofInt ticks), .ofNat severity, message, eventType, sourceNode,
    sourceName, trace, attributes⟩

end LogHistory.Parser
