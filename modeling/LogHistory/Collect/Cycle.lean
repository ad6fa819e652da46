import LogHistory.Collect.Collection
import LogHistory.Collect.Cursor

/-!
# Cycles

Collections are made again and again over the same sources. A cycle collects a given stretch of
time, or all since the last cycle that was committed, and may be committed itself. A cycle may be
cancelled before it starts; the next one is not.
-/

namespace LogHistory

/-- The stretch of time that a cycle collects. -/
inductive Span where
  /-- Between two instants. -/
  | between (start stop : Instant)
  /-- From the cursor to the present. -/
  | upTo (now : Instant)
  deriving DecidableEq, Repr

/-- The ends of the stretch. -/
def Span.ends (cursor : Cursor) : Span → Instant × Instant
  | between start stop => (start, stop)
  | upTo now => cursor.window now

/-- One turn of a schedule. -/
structure Cycle where
  /-- What it collects. -/
  span : Span
  /-- Whether it is cancelled before it starts. -/
  cancelled : Bool
  /-- Whether the end of its stretch is committed. -/
  commits : Bool
  deriving DecidableEq, Repr

/-- The outcome of a cycle. -/
structure CycleResult where
  /-- What was collected. -/
  collection : Collection
  /-- The cursor afterwards. -/
  cursor : Cursor

namespace Collector

variable {σ : Type} (serve : Service σ) (c : Collector)

/-- Runs one cycle. -/
def runCycle (sources : List NodeId) (cycle : Cycle) (cursor : Cursor) (state : σ) :
    CycleResult × σ :=
  let (start, stop) := cycle.span.ends cursor
  let (collection, link) := c.collect serve sources start stop ⟨state, cycle.cancelled⟩
  (⟨collection, if cycle.commits then cursor.commit stop else cursor⟩, link.state)

/-- Runs cycles one after another. -/
def runCycles (sources : List NodeId) : List Cycle → Cursor → σ → List CycleResult × σ
  | [], _, state => ([], state)
  | cycle :: cycles, cursor, state =>
    let (result, state) := c.runCycle serve sources cycle cursor state
    let (results, state) := runCycles sources cycles result.cursor state
    (result :: results, state)

end Collector

end LogHistory
