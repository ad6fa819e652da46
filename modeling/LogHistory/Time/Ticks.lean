import LogHistory.Time.Instant

/-!
# Ticks

On the wire a time is a signed 64-bit count of ticks of 100 ns since the start of 1601 UTC. A count
that is not positive means that no time is set. Going to ticks drops what is less than a tick, and
fails for times that have no positive 64-bit count; each step is checked to stay within 64 bits.
-/

namespace LogHistory.Ticks

/-- The ticks from the start of 1601 to the start of 1970. -/
def unixEpoch : Int := 116444736000000000

/-- The ticks in a second. -/
def perSecond : Int := 10000000

/-- A number as a signed 64-bit word, if it is one. -/
def word? (n : Int) : Option Int64 :=
  if -9223372036854775808 ≤ n ∧ n < 9223372036854775808 then some (Int64.ofInt n) else none

/-- The instant of a tick count. -/
def toInstant? (ticks : Int64) : Option Instant :=
  if ticks.toInt ≤ 0 then none
  else
    let unix := ticks.toInt - unixEpoch
    Instant.ofParts? (unix / perSecond) ((unix % perSecond).toNat * 100)

/-- The tick count of an instant, rounded down to whole ticks. -/
def ofInstant? (t : Instant) : Option Int64 := do
  let whole ← word? (t.secs * perSecond)
  let unix ← word? (whole.toInt + t.nanos / 100)
  let ticks ← word? (unix.toInt + unixEpoch)
  if 0 < ticks.toInt then some ticks else none

end LogHistory.Ticks
