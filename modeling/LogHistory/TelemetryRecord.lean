import LogHistory.LogRecord.Basic
import LogHistory.Tier

/-!
# Telemetry records

The form in which records are handed on to a telemetry pipeline, free of the details of the log they
come from: the severity is placed in its tier, identifiers are taken apart or written out, and the
trace context becomes hexadecimal text, empty where there is none.
-/

namespace LogHistory

/-- The identity of the node that a record comes from. -/
structure NodeIdentity where
  /-- Its namespace. -/
  ns : UInt16
  /-- The kind of its identifier. -/
  kind : String
  /-- The number or text within the namespace. -/
  value : String
  deriving DecidableEq, Repr

/-- The parts of an identifier. -/
def NodeIdentity.ofNodeId (id : NodeId) : NodeIdentity := ⟨id.ns, id.kind, id.valueText⟩

/-- A record for a telemetry pipeline. -/
structure TelemetryRecord where
  /-- When it was made, if known. -/
  time : Option Instant
  /-- Its severity as the log has it. -/
  severity : UInt16
  /-- The tier of the severity. -/
  tier : Tier
  /-- The level of the severity, as a number. -/
  severityNumber : Nat
  /-- What it says. -/
  body : String
  /-- The name of what it comes from. -/
  sourceName : Option String
  /-- The node it comes from. -/
  source : Option NodeIdentity
  /-- The type of event it reports. -/
  eventType : Option String
  /-- The text of the trace id. -/
  traceId : String
  /-- The text of the span id. -/
  spanId : String
  /-- The text of the parent's span id. -/
  parentSpanId : String
  /-- Where the parent ran. -/
  parentOrigin : Option String
  /-- Additional data. -/
  attributes : Attributes
  deriving DecidableEq, Repr

namespace TelemetryRecord

/-- The name of the severity's tier. -/
def tierName (r : TelemetryRecord) : String := r.tier.name

/-- Whether the record belongs to a trace. -/
def isTraced (r : TelemetryRecord) : Bool := r.spanId ≠ ""

/-- The telemetry form of a record. -/
def ofLogRecord (r : LogRecord) : TelemetryRecord :=
  let tier := Tier.ofSeverity r.severity.toNat
  { time := r.time
    severity := r.severity
    tier := tier
    severityNumber := tier.level.number
    body := r.message
    sourceName := r.sourceName
    source := r.sourceNode.map NodeIdentity.ofNodeId
    eventType := r.eventType.map NodeId.toText
    traceId := r.traceHex
    spanId := r.spanHex
    parentSpanId := (r.trace.map TraceContext.parentSpanHex).getD ""
    parentOrigin := r.trace.bind TraceContext.parentOrigin
    attributes := r.attributes }

end TelemetryRecord

end LogHistory
