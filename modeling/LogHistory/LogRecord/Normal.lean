import LogHistory.LogRecord.Wire

/-!
# The record that comes back

Encoding loses little: what is less than a tick of the time, that the time lay in a leap second, and
the difference between a null identifier and none. `LogRecord.normal` is the record without these,
so it is what decoding an encoded record yields.
-/

namespace LogHistory

/-- The exact tick count of an instant, over all integers. -/
def Instant.ticks (t : Instant) : Int := t.totalNanos / 100 + Ticks.unixEpoch

/-- The ordinary instant at the last whole tick, if it is in range. -/
def Instant.wholeTick? (t : Instant) : Option Instant :=
  let nanos := t.totalNanos / 100 * 100
  ofParts? (nanos / 1000000000) (nanos % 1000000000).toNat

/-- Whether the instant is ordinary and at a whole tick. -/
def Instant.isWholeTick (t : Instant) : Bool := !t.isLeap && t.nanos % 100 = 0

namespace LogRecord

/-- The record without what the wire does not carry. -/
def normal (r : LogRecord) : LogRecord :=
  { r with
    time := r.time.bind Instant.wholeTick?
    eventType := r.eventType.filter (!·.isNull)
    sourceNode := r.sourceNode.filter (!·.isNull) }

end LogRecord

end LogHistory
