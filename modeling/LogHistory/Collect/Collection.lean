import LogHistory.Collect.Fetch

/-!
# Collections

A collection visits its sources one after another and gives each the same quota. A source that fails
does not stop the others. If the window would end before it starts, every source fails without being
called.
-/

namespace LogHistory

/-- What happened at a source. -/
structure Report where
  /-- The source. -/
  source : NodeId
  /-- Why it failed, if it did. -/
  failure : Option Failure
  /-- How many calls were made, those before starting over included. -/
  calls : UInt32
  /-- How many records it contributed. -/
  records : Nat
  /-- How many payloads could not be decoded. -/
  skipped : Nat
  deriving DecidableEq, Repr

/-- Whether the source was fetched to its end. -/
def Report.isDone (r : Report) : Bool := r.failure.isNone

/-- All that came of one source. -/
structure Visit where
  /-- What happened. -/
  report : Report
  /-- The records it contributed. -/
  records : List TelemetryRecord
  /-- The calls that were made. -/
  exchanges : List Exchange

/-- What a run amounts to for its source. -/
def Run.visit {σ : Type} (run : Run σ) (source : NodeId) : Visit where
  report := ⟨source, run.failure, run.fetch.calls, run.fetch.records.length, run.fetch.skipped⟩
  records := run.fetch.records
  exchanges := run.exchanges

/-- A source that is not called, because the window has no extent. -/
def Visit.refused (source : NodeId) : Visit :=
  ⟨⟨source, some .invalidArgument, 0, 0, 0⟩, [], []⟩

/-- The outcome of a collection: the visits in the order of the sources. -/
structure Collection where
  /-- The visits. -/
  visits : List Visit

namespace Collection

/-- The records, in the order of the sources and of their pages. -/
def records (c : Collection) : List TelemetryRecord := c.visits.flatMap (·.records)

/-- The reports, in the order of the sources. -/
def reports (c : Collection) : List Report := c.visits.map (·.report)

/-- The calls that were made, in their order. -/
def exchanges (c : Collection) : List Exchange := c.visits.flatMap (·.exchanges)

/-- The reports of the sources that failed. -/
def failed (c : Collection) : List Report := c.reports.filter (!·.isDone)

/-- Whether there were sources and all of them failed. -/
def allFailed (c : Collection) : Bool := !c.reports.isEmpty && c.reports.all (!·.isDone)

end Collection

namespace Collector

variable {σ : Type} (serve : Service σ) (c : Collector)

/-- Fetches one source. -/
def visit (window : Except InvalidWindow Window) (quota : Nat) (source : NodeId) (link : Link σ) :
    Visit × Link σ :=
  match window with
  | .ok window =>
    let run := fetchFrom serve c window source quota (.fresh quota) link
    (run.visit source, run.link)
  | .error _ => (.refused source, link)

/-- Fetches sources one after another. -/
def visitAll (window : Except InvalidWindow Window) (quota : Nat) :
    List NodeId → Link σ → List Visit × Link σ
  | [], link => ([], link)
  | source :: sources, link =>
    let (v, link) := c.visit serve window quota source link
    let (vs, link) := visitAll window quota sources link
    (v :: vs, link)

/-- Collects the records between two instants from every source. -/
def collect (sources : List NodeId) (start stop : Instant) (link : Link σ) : Collection × Link σ :=
  let window := Window.make start stop c.floor
  let (visits, link) :=
    c.visitAll serve window (c.settings.quotaFor sources.length) sources link
  (⟨visits⟩, link)

end Collector

end LogHistory
