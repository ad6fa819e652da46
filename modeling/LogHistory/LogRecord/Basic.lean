import LogHistory.LogRecord.Attributes
import LogHistory.NodeId.Text
import LogHistory.Time.Calendar
import LogHistory.Trace.Context

/-!
# Log records

A record has a time, a severity, a message and several optional fields. Two records count as the
same if they agree on all fields, attributes in any order and floating-point numbers compared as
numbers. A record is shown on one line, its free texts quoted.
-/

namespace LogHistory

/-- An entry of a log. -/
structure LogRecord where
  /-- When it was made, if known. -/
  time : Option Instant
  /-- How serious it is, normally from 1 to 1000. -/
  severity : UInt16
  /-- What it says. -/
  message : String
  /-- The type of event it reports. -/
  eventType : Option NodeId
  /-- The node it comes from. -/
  sourceNode : Option NodeId
  /-- The name of what it comes from. -/
  sourceName : Option String
  /-- The distributed operation it arose in. -/
  trace : Option TraceContext
  /-- Additional data. -/
  attributes : Attributes
  deriving DecidableEq, Repr

namespace LogRecord

/-- A severity brought into the range from 1 to 1000. -/
def clampSeverity (severity : UInt16) : UInt16 := max 1 (min severity 1000)

/-- A record with the fields that every record has. Its severity is brought into range. -/
def make (time : Instant) (severity : UInt16) (message : String) : LogRecord where
  time := some time
  severity := clampSeverity severity
  message := message
  eventType := none
  sourceNode := none
  sourceName := none
  trace := none
  attributes := .empty

/-- The record with an attribute set. -/
def setAttribute (r : LogRecord) (key : String) (value : Scalar) : LogRecord :=
  { r with attributes := r.attributes.insert key value }

/-- The text of the trace id, empty without a trace context. -/
def traceHex (r : LogRecord) : String := (r.trace.map TraceContext.traceHex).getD ""

/-- The text of the span id, empty without a trace context. -/
def spanHex (r : LogRecord) : String := (r.trace.map TraceContext.spanHex).getD ""

/-- Equality of records. -/
def same (a b : LogRecord) : Bool :=
  a.time = b.time && a.severity = b.severity && a.message = b.message
    && a.eventType = b.eventType && a.sourceNode = b.sourceNode && a.sourceName = b.sourceName
    && a.trace = b.trace && a.attributes.same b.attributes

/-- The record on one line. -/
def toText (r : LogRecord) : String :=
  "LogRecord\x7bTime: " ++ (r.time.map Instant.rfc3339).getD ""
    ++ ", Severity: " ++ toString r.severity.toNat
    ++ ", Message: " ++ Quoted.ofString r.message
    ++ ", SourceName: " ++ Quoted.ofString (r.sourceName.getD "")
    ++ ", SourceNode: " ++ Quoted.ofString ((r.sourceNode.map NodeId.toText).getD "")
    ++ ", TraceID: " ++ Quoted.ofString r.traceHex
    ++ ", SpanID: " ++ Hex.ofNat 8 ((r.trace.map (·.spanId.toNat)).getD 0)
    ++ ", AdditionalData: " ++ toString r.attributes.size ++ "\x7d"

end LogRecord

end LogHistory
