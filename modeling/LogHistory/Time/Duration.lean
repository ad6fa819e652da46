import LogHistory.Time.Instant

/-!
# Durations

A duration is a count of nanoseconds. `Instant.minus?` takes one from an instant: the total is
counted down and brought back to whole seconds, so the result is an ordinary instant. The exception
is a duration that does not lead out of a leap second, which leaves the second as it is.
-/

namespace LogHistory

/-- A length of time. -/
structure Duration where
  /-- Its nanoseconds. -/
  nanos : Nat
  deriving DecidableEq, Repr

namespace Duration

/-- A duration of whole milliseconds. -/
def ofMillis (ms : Nat) : Duration := ⟨ms * 1000000⟩

/-- A number with the fraction `part / 10 ^ places`, without the zeros it would end with. -/
def withFraction (whole part places : Nat) : String :=
  let digits := Nat.toDigits 10 part
  let padded := List.replicate (places - digits.length) '0' ++ digits
  let kept := (padded.reverse.dropWhile (· = '0')).reverse
  toString whole ++ (if part = 0 then "" else "." ++ String.ofList kept)

/-- How a duration is shown: in the largest unit of seconds, milliseconds, microseconds and
nanoseconds of which it has at least one, with as many decimal places as it needs. -/
def text (d : Duration) : String :=
  if 1000000000 ≤ d.nanos then
    withFraction (d.nanos / 1000000000) (d.nanos % 1000000000) 9 ++ "s"
  else if 1000000 ≤ d.nanos then
    withFraction (d.nanos / 1000000) (d.nanos % 1000000) 6 ++ "ms"
  else if 1000 ≤ d.nanos then
    withFraction (d.nanos / 1000) (d.nanos % 1000) 3 ++ "µs"
  else toString d.nanos ++ "ns"

end Duration

namespace Instant

/-- The instant a duration earlier, unless it lies before all instants. -/
def minus? (t : Instant) (d : Duration) : Option Instant :=
  if t.isLeap ∧ d.nanos ≤ t.nanos - 1000000000 then
    some { t with nanos := t.nanos - d.nanos, nanos_lt := by have := t.nanos_lt; omega }
  else
    let total := t.totalNanos - d.nanos
    ofParts? (total / 1000000000) (total % 1000000000).toNat

end Instant

end LogHistory
