import LogHistory.Trace.Id
import LogHistory.Wire.Read
import LogHistory.Wire.Write

/-!
# Trace contexts

A record may say in which distributed operation it arose. On the wire the trace id has the layout of
a GUID, a word of four bytes, two of two and eight single bytes; as the words are little-endian on
both sides its bytes keep their order. The section is always there: a span id of zero means that the
record has no trace context, whatever the other fields hold, and one with a zero span id cannot be
written.
-/

namespace LogHistory

/-- Where a record belongs in a distributed operation. -/
structure TraceContext where
  /-- The operation. -/
  traceId : TraceId
  /-- The step the record arose in. -/
  spanId : UInt64
  /-- The step that caused it, zero for the first. -/
  parentSpanId : UInt64
  /-- Where that step ran. -/
  parentOrigin : Option String
  deriving DecidableEq, Repr

namespace TraceContext

/-- The text of the trace id. -/
def traceHex (t : TraceContext) : String := t.traceId.hex t.spanId

/-- The text of the span id. -/
def spanHex (t : TraceContext) : String := SpanId.hex t.spanId

/-- The text of the parent's span id. -/
def parentSpanHex (t : TraceContext) : String := SpanId.hex t.parentSpanId

/-- The wire form of a trace context that may be absent. -/
def encode? : Option TraceContext → Write.Result
  | none => .ok (List.replicate 32 0 ++ Write.absent)
  | some t =>
    if t.spanId = 0 then .error .zeroSpanId
    else do
      let origin ← Write.text? t.parentOrigin
      return t.traceId.bytes ++ Write.uint64 t.spanId ++ Write.uint64 t.parentSpanId ++ origin

end TraceContext

namespace Read

/-- Exactly `n` bytes, zeros if there are fewer. -/
def fixed (n : Nat) : Read { bs : Bytes // bs.length = n } := do
  let bs ← take n
  return if h : bs.length = n then ⟨bs, h⟩ else ⟨List.replicate n 0, List.length_replicate⟩

/-- A trace id, in four reads as its layout has it. -/
def traceId : Read TraceId := do
  let a ← fixed 4
  let b ← fixed 2
  let c ← fixed 2
  let d ← fixed 8
  return .ofWords a b c d

/-- A trace context, absent if its span id is zero. -/
def traceContext? : Read (Option TraceContext) := do
  let id ← traceId
  let span ← uint64
  let parent ← uint64
  let origin ← text?
  return if span = 0 then none else some ⟨id, span, parent, origin⟩

end Read

end LogHistory
