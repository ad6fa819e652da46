import LogHistory.Time.Duration

/-!
# Cursors

A cursor remembers up to which instant the records of a log have been collected. Each cycle asks for
the window from there to the present and, once its records are in safe hands, commits the window's
end. A cycle that fails commits nothing, so the next one asks for the same stretch again. Clocks may
go backwards; a cursor does not.
-/

namespace LogHistory

/-- The end of what has been collected. -/
structure Cursor where
  /-- Everything up to here has been collected. -/
  last : Instant
  deriving DecidableEq, Repr

namespace Cursor

/-- The longest interval a cursor is set back by: a signed 64-bit count of milliseconds. -/
def longestInterval : Duration := .ofMillis 9223372036854775807

/-- A cursor whose first window covers one interval before the present. An interval that is too long
counts as none, as does one that leads out of the range of instants. -/
def seeded (interval : Duration) (now : Instant) : Cursor :=
  let step : Duration := if longestInterval.nanos < interval.nanos then ⟨0⟩ else interval
  ⟨(now.minus? step).getD now⟩

/-- The window from the cursor to the present, which never ends before it starts. -/
def window (c : Cursor) (now : Instant) : Instant × Instant := (c.last, max now c.last)

/-- The cursor once everything up to an instant has been collected. -/
def commit (c : Cursor) (stop : Instant) : Cursor := if c.last < stop then ⟨stop⟩ else c

end Cursor

end LogHistory
