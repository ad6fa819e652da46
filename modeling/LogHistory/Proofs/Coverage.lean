import LogHistory.Collect.Cycle
import LogHistory.Proofs.Cancellation
import LogHistory.Proofs.Cursors
import LogHistory.Proofs.Isolation

/-!
# Cycles leave no gap

A cycle collects all since the cursor, and only a cycle that is committed moves it. So the windows
of the committed cycles tile the stretch from the first position of the cursor to the last, whatever
the clock shows and whichever cycles are not committed in between; of this nothing is asked of the
far end. And an honest log object brings all that it holds of a window, as long as that is no more
than a collection may bring. Both together say that the committed cycles deliver every entry of the
stretch: just one of them does, unless the entry lies where two windows meet.

One exception stands in the main statement. As long as no cycle is committed the stretch is a single
instant, and nobody has delivered the entries that lie on it.

## What is proved

* `Collector.tiles_deliveries` — the windows of the committed cycles tile the stretch.
* `Site.Ready.collect_brings` — a collection from an honest object brings what lies in its window.
* `Collector.brings_of_mem_deliveries` — so does every committed cycle of a run.
* `Tiles.one_le_countP_select`, `Tiles.countP_select_eq_one` — in how many windows an entry lies.
* `cycles_leave_no_gap` — how often an entry is delivered.
-/

namespace LogHistory

/-! ### Runs of cycles -/

/-- A reading of the clock, at which a cycle collects all since the cursor. -/
structure Reading where
  /-- What the clock shows. It may have gone backwards. -/
  now : Instant
  /-- Whether the cycle is committed. -/
  commits : Bool

/-- The cycle of a reading. It is not cancelled. -/
def Reading.cycle (r : Reading) : Cycle := ⟨.upTo r.now, false, r.commits⟩

/-- What a committed cycle asked for, and what it brought. -/
structure Delivery where
  /-- The window that was asked for. -/
  window : Window
  /-- What was collected. -/
  collection : Collection

/-- The committed cycles of a run that starts with a cursor, in their order. -/
def deliveries (floor : UInt16) : Cursor → List Reading → List CycleResult → List Delivery
  | cursor, r :: readings, result :: results =>
    if r.commits then
      ⟨cursor.asks floor r.now, result.collection⟩ :: deliveries floor result.cursor readings results
    else deliveries floor result.cursor readings results
  | _, _, _ => []

/-- The cursor after the last cycle of a run that starts with a cursor. -/
def lastCursor (cursor : Cursor) (results : List CycleResult) : Cursor :=
  results.foldl (fun _ result => result.cursor) cursor

namespace Collector

variable {σ : Type} (serve : Service σ) (c : Collector) (sources : List NodeId)

/-- What comes of the cycles of these readings. -/
def poll (readings : List Reading) (cursor : Cursor) (state : σ) : List CycleResult :=
  (c.runCycles serve sources (readings.map Reading.cycle) cursor state).1

theorem cursor_runCycle (r : Reading) (cursor : Cursor) (state : σ) :
    (c.runCycle serve sources r.cycle cursor state).1.cursor =
      if r.commits then ⟨(cursor.asks c.floor r.now).stop⟩ else cursor := by
  rw [← cursor.last_commit_asks c.floor r.now]
  rfl

/-- **The windows of the committed cycles tile the stretch** from the first position of the cursor
to the last, whatever the far end does. -/
theorem tiles_deliveries (readings : List Reading) :
    ∀ (cursor : Cursor) (state : σ),
      let results := c.poll serve sources readings cursor state
      Tiles cursor.last ((deliveries c.floor cursor readings results).map (·.window))
        (lastCursor cursor results).last := by
  induction readings with
  | nil => exact fun cursor _ => .nil cursor.last
  | cons r readings ih =>
    intro cursor state
    have hcursor := c.cursor_runCycle serve sources r cursor state
    have hrest := ih (c.runCycle serve sources r.cycle cursor state).1.cursor
      (c.runCycle serve sources r.cycle cursor state).2
    simp only [poll, List.map_cons, runCycles, deliveries, lastCursor, List.foldl_cons] at hrest ⊢
    by_cases hcommits : r.commits = true
    · rw [if_pos hcommits] at hcursor ⊢
      rw [List.map_cons]
      refine .cons rfl ?_
      have hlast : (c.runCycle serve sources r.cycle cursor state).1.cursor.last =
          (cursor.asks c.floor r.now).stop := by rw [hcursor]
      exact hlast ▸ hrest
    · rw [if_neg hcommits] at hcursor ⊢
      have hlast : (c.runCycle serve sources r.cycle cursor state).1.cursor.last = cursor.last := by
        rw [hcursor]
      exact hlast ▸ hrest

end Collector

/-! ### Collections from an honest object -/

/-- The record that an entry gives out, in telemetry form. -/
def Entry.telemetryForm? (decoders : DecoderTable) (e : Entry) : Option TelemetryRecord :=
  (decoders.decode e.payload).toOption.map .ofLogRecord

/-- A collection brings the records of these entries, one for each and in their order, and no source
has failed. -/
structure Collection.Brings (out : Collection) (decoders : DecoderTable) (entries : List Entry) :
    Prop where
  /-- The records are those of the entries. -/
  records : out.records.map some = entries.map (·.telemetryForm? decoders)
  /-- No source has failed. -/
  done : out.failed = []

theorem DecoderTable.map_some_accepted {decoders : DecoderTable} {entries : List Entry}
    (h : ∀ e ∈ entries, (decoders.decode e.payload).isOk = true) :
    (decoders.accepted (entries.map (·.payload))).map some =
      entries.map (·.telemetryForm? decoders) := by
  rw [accepted, List.filterMap_map, List.map_filterMap_some_eq_filter_map_isSome]
  refine List.filter_eq_self.mpr fun r hr => ?_
  obtain ⟨e, he, rfl⟩ := List.mem_map.mp hr
  have hok := h e he
  simp only [Function.comp_apply]
  cases hdecode : decoders.decode e.payload with
  | error cause =>
    rw [hdecode] at hok
    cases hok
  | ok record => rfl

theorem Settings.le_quotaFor_one (s : Settings) : s.maxLogRecords.toNat ≤ s.quotaFor 1 := by
  have hone : min (max 1 1) (UInt32.size - 1) = 1 := by decide
  rw [quotaFor, hone, Nat.div_one]
  exact Nat.le_max_right ..

section

variable {c : Collector} {source : NodeId} {entries : List Entry}

theorem Site.Ready.single (source : NodeId) (entries : List Entry) :
    Site.Ready source entries ⟨[⟨source, entries, []⟩], false⟩ := by
  refine ⟨rfl, fun id o ho step hstep => ?_, by simp [Site.object?]⟩
  obtain rfl := List.mem_singleton.mp (List.mem_of_find?_eq_some ho)
  cases hstep

/-- **A collection from an honest object brings what lies in its window**, as long as that is no
more than a collection may bring. -/
theorem Site.Ready.collect_brings {link : Link Site} (h : Site.Ready source entries link)
    (hdecodable : ∀ e ∈ entries, (c.decoders.decode e.payload).isOk = true) {w : Window}
    (hfloor : w.floor = c.floor)
    (hfits : (History.select entries w).length ≤ c.settings.maxLogRecords.toNat) :
    (c.collect Site.serve [source] w.start w.stop link).1.Brings c.decoders
      (History.select entries w) := by
  obtain ⟨start, stop, floor, hle⟩ := w
  subst hfloor
  have hpaged := h.visit_isPaged c (c.settings.quotaFor_pos 1) (c.settings.quotaFor_lt 1)
    (rfl : History.payloads entries ⟨start, stop, c.floor, hle⟩ = _)
  rw [c.collect_of_le hle]
  simp only [Collector.visitAll, Collector.quotaOf, List.length_singleton]
  generalize (c.visit Site.serve (.ok ⟨start, stop, c.floor, hle⟩) (c.settings.quotaFor 1) source
    link).1 = v at hpaged ⊢
  have hfits' : (History.payloads entries ⟨start, stop, c.floor, hle⟩).length ≤
      c.settings.quotaFor 1 := by
    rw [History.payloads, List.length_map]
    exact Nat.le_trans hfits c.settings.le_quotaFor_one
  constructor
  · have hrecords := hpaged.records
    rw [Nat.min_eq_left hfits', List.take_length] at hrecords
    rw [Collection.records, List.flatMap_cons, List.flatMap_nil, List.append_nil, hrecords]
    exact DecoderTable.map_some_accepted fun e he => hdecodable e (List.mem_of_mem_filter he)
  · simp [Collection.failed, Collection.reports, Report.isDone, hpaged.done]

namespace Collector

/-- **Every committed cycle of a run brings what lies in its window.** -/
theorem brings_of_mem_deliveries
    (hdecodable : ∀ e ∈ entries, (c.decoders.decode e.payload).isOk = true)
    (readings : List Reading) :
    ∀ (cursor : Cursor) (site : Site), Site.Ready source entries ⟨site, false⟩ →
      ∀ d ∈ deliveries c.floor cursor readings (c.poll Site.serve [source] readings cursor site),
        (History.select entries d.window).length ≤ c.settings.maxLogRecords.toNat →
        d.collection.Brings c.decoders (History.select entries d.window) := by
  induction readings with
  | nil => intro cursor site _ d hd; cases hd
  | cons r readings ih =>
    intro cursor site hready d hd hfits
    have hnext : Site.Ready source entries
        ⟨(c.runCycle Site.serve [source] r.cycle cursor site).2, false⟩ := by
      have hlink := hready.collect c [source] (cursor.asks c.floor r.now).start
        (cursor.asks c.floor r.now).stop
      exact ⟨rfl, hlink.quiet, hlink.object⟩
    have hrest := ih (c.runCycle Site.serve [source] r.cycle cursor site).1.cursor _ hnext d
    simp only [poll, List.map_cons, runCycles, deliveries] at hd hrest
    split_ifs at hd with hcommits
    · rcases List.mem_cons.mp hd with rfl | hd
      · exact hready.collect_brings hdecodable rfl hfits
      · exact hrest hd hfits
    · exact hrest hd hfits

end Collector

end

/-! ### Entries -/

/-- The entry has a time in the stretch, ends included, and is severe enough. -/
def Entry.IsDue (e : Entry) (first last : Instant) (floor : UInt16) : Prop :=
  ∃ t, e.record.time = some t ∧ first ≤ t ∧ t ≤ last ∧ floor ≤ e.record.severity

theorem History.mem_select_iff {entries : List Entry} {e : Entry} (he : e ∈ entries) (w : Window) :
    e ∈ select entries w ↔
      ∃ t, e.record.time = some t ∧ w.Spans t ∧ w.floor ≤ e.record.severity := by
  rw [select, List.mem_filter, and_iff_right he, Entry.isIn]
  cases e.record.time with
  | none => simp
  | some t => simp [Window.Spans, and_assoc]

section

variable {first last : Instant} {floor : UInt16} {ws : List Window} {entries : List Entry}
  {e : Entry}

theorem Entry.IsDue.exists_mem_select_iff (hdue : e.IsDue first last floor)
    (hfloor : ∀ w ∈ ws, w.floor = floor) (he : e ∈ entries) :
    ∃ t, e.record.time = some t ∧ first ≤ t ∧ t ≤ last ∧
      ∀ w ∈ ws, e ∈ History.select entries w ↔ w.Spans t := by
  obtain ⟨t, ht, hfirst, hlast, hsevere⟩ := hdue
  refine ⟨t, ht, hfirst, hlast, fun w hw => ?_⟩
  rw [History.mem_select_iff he, ht, hfloor w hw]
  simp [hsevere]

namespace Tiles

theorem one_le_countP_select (h : Tiles first ws last) (hfloor : ∀ w ∈ ws, w.floor = floor)
    (he : e ∈ entries) (hdue : e.IsDue first last floor) (hne : ws ≠ []) :
    1 ≤ ws.countP fun w => e ∈ History.select entries w := by
  obtain ⟨t, -, hfirst, hlast, hselect⟩ := hdue.exists_mem_select_iff hfloor he
  obtain ⟨w, hw, hspans⟩ := h.exists_spans hne hfirst hlast
  exact List.countP_pos_iff.mpr ⟨w, hw, decide_eq_true ((hselect w hw).mpr hspans)⟩

theorem countP_select_eq_one (h : Tiles first ws last) (hfloor : ∀ w ∈ ws, w.floor = floor)
    (he : e ∈ entries) (hdue : e.IsDue first last floor) (hne : ws ≠ [])
    (hends : ∀ w ∈ ws, e.record.time ≠ some w.start ∧ e.record.time ≠ some w.stop) :
    (ws.countP fun w => e ∈ History.select entries w) = 1 := by
  obtain ⟨t, ht, hfirst, hlast, hselect⟩ := hdue.exists_mem_select_iff hfloor he
  rw [ht] at hends
  rw [← h.countP_spans_eq_one hne hfirst hlast fun w hw =>
    ⟨fun h => (hends w hw).1 (congrArg some h), fun h => (hends w hw).2 (congrArg some h)⟩]
  exact List.countP_congr fun w hw => by simpa using hselect w hw

theorem countP_select_eq_zero (h : Tiles first ws last) (hfloor : ∀ w ∈ ws, w.floor = floor)
    (he : e ∈ entries) (hnot : ¬ e.IsDue first last floor) :
    (ws.countP fun w => e ∈ History.select entries w) = 0 := by
  refine List.countP_eq_zero.mpr fun w hw hmem => hnot ?_
  obtain ⟨t, ht, hspans, hsevere⟩ := (History.mem_select_iff he w).mp (of_decide_eq_true hmem)
  have hwithin := h.within hw
  exact ⟨t, ht, le_trans hwithin.1 hspans.1, le_trans hspans.2 hwithin.2, hfloor w hw ▸ hsevere⟩

end Tiles

end

theorem floor_of_mem_deliveries {floor : UInt16} {readings : List Reading} :
    ∀ {cursor : Cursor} {results : List CycleResult},
      ∀ d ∈ deliveries floor cursor readings results, d.window.floor = floor := by
  induction readings with
  | nil => intro cursor results d hd; cases hd
  | cons r readings ih =>
    intro cursor results d hd
    cases results with
    | nil => cases hd
    | cons result results =>
      rw [deliveries] at hd
      split_ifs at hd
      · rcases List.mem_cons.mp hd with rfl | hd
        · rfl
        · exact ih d hd
      · exact ih d hd

/-- **Cycles leave no gap.** An honest log object, all of whose entries can be decoded, is collected
from by cycles that each ask for all since the cursor; what the clock shows is arbitrary, and so is
which of the cycles are committed, but no committed one finds more in its window than a collection
may bring. Then a committed cycle brings the records of the entries in its window, one for each and
in their order. Between the first and the last position of the cursor every entry that is severe
enough is delivered by a committed cycle, if there is one at all; it is delivered by just one unless
its time is where a window begins or ends. An entry without a time, or with one outside this
stretch, is delivered by none. -/
theorem cycles_leave_no_gap (c : Collector) (source : NodeId) (entries : List Entry)
    (cursor : Cursor) (readings : List Reading)
    (hdecodable : ∀ e ∈ entries, (c.decoders.decode e.payload).isOk = true) :
    let results := c.poll Site.serve [source] readings cursor [⟨source, entries, []⟩]
    let committed := deliveries c.floor cursor readings results
    let first := cursor.last
    let last := (lastCursor cursor results).last
    (∀ d ∈ committed,
      (History.select entries d.window).length ≤ c.settings.maxLogRecords.toNat) →
    (∀ d ∈ committed, d.collection.Brings c.decoders (History.select entries d.window)) ∧
    ∀ e ∈ entries,
      let times := committed.countP fun d => e ∈ History.select entries d.window
      (e.IsDue first last c.floor → committed ≠ [] → 1 ≤ times ∧
        ((∀ d ∈ committed, e.record.time ≠ some d.window.start ∧
          e.record.time ≠ some d.window.stop) → times = 1)) ∧
      (¬ e.IsDue first last c.floor → times = 0) := by
  intro results committed first last hfits
  have htiles : Tiles first (committed.map (·.window)) last :=
    c.tiles_deliveries Site.serve [source] readings cursor _
  have hfloor : ∀ w ∈ committed.map (·.window), w.floor = c.floor := by
    intro w hw
    obtain ⟨d, hd, rfl⟩ := List.mem_map.mp hw
    exact floor_of_mem_deliveries d hd
  refine ⟨fun d hd => Collector.brings_of_mem_deliveries hdecodable readings cursor _
    (.single source entries) d hd (hfits d hd), fun e he => ?_⟩
  have hcount : (committed.countP fun d => e ∈ History.select entries d.window) =
      (committed.map (·.window)).countP fun w => e ∈ History.select entries w := by
    rw [List.countP_map]
    rfl
  simp only [hcount]
  refine ⟨fun hdue hne => ?_, htiles.countP_select_eq_zero hfloor he⟩
  have hne' : committed.map (·.window) ≠ [] := fun h => hne (List.map_eq_nil_iff.mp h)
  refine ⟨htiles.one_le_countP_select hfloor he hdue hne', fun hends => ?_⟩
  refine htiles.countP_select_eq_one hfloor he hdue hne' fun w hw => ?_
  obtain ⟨d, hd, rfl⟩ := List.mem_map.mp hw
  exact hends d hd

/-- A second of the first minute of 1970. -/
def earlySecond (n : Fin 60) : Instant :=
  { Instant.epoch with secs := n.val, le_secs := by omega, secs_le := by omega }

/-- The entry that holds a record of such a second. -/
def earlyEntry (n : Fin 60) (message : String) : Entry :=
  ⟨.make (earlySecond n) 500 message, .structured (.make (earlySecond n) 500 message)⟩

/-- The clock goes backwards between two cycles that are committed, and the cycle at that reading is
not committed. The first committed cycle brings the two entries up to its end, and the entry after
them is delivered once. -/
theorem cycles_leave_no_gap_clockBack :
    let entries := [earlyEntry 0 "a", earlyEntry 5 "b", earlyEntry 7 "c"]
    let readings := [⟨earlySecond 5, true⟩, ⟨earlySecond 3, false⟩, ⟨earlySecond 9, true⟩]
    let results := plainCollector.poll Site.serve [.null] readings ⟨earlySecond 0⟩
      [⟨.null, entries, []⟩]
    let committed := deliveries plainCollector.floor ⟨earlySecond 0⟩ readings results
    committed.map (·.window.stop) = [earlySecond 5, earlySecond 9] ∧
      (∀ d ∈ committed.head?, d.collection.records.map some =
        [earlyEntry 0 "a", earlyEntry 5 "b"].map (·.telemetryForm? .default)) ∧
      (committed.countP fun d => earlyEntry 7 "c" ∈ History.select entries d.window) = 1 := by
  intro entries readings results committed
  have hfits : ∀ d ∈ committed, (History.select entries d.window).length ≤ 1000 :=
    fun d _ => Nat.le_trans (List.length_filter_le _ entries) (by decide)
  obtain ⟨hbrings, htimes⟩ := cycles_leave_no_gap plainCollector .null entries ⟨earlySecond 0⟩
    readings (by decide) hfits
  obtain ⟨d₁, d₂, hcommitted, hw₁, hw₂⟩ : ∃ d₁ d₂, committed = [d₁, d₂] ∧
      d₁.window = ⟨earlySecond 0, earlySecond 5, 51, by decide⟩ ∧
      d₂.window = ⟨earlySecond 5, earlySecond 9, 51, by decide⟩ := ⟨_, _, rfl, rfl, rfl⟩
  have hfirst : d₁ ∈ committed := hcommitted ▸ List.mem_cons_self
  refine ⟨by rw [hcommitted, List.map_cons, List.map_singleton, hw₁, hw₂], fun d hd => ?_, ?_⟩
  · rw [hcommitted] at hd
    obtain rfl := Option.some.inj hd
    have hrecords := (hbrings d₁ hfirst).records
    rw [hw₁] at hrecords
    exact hrecords
  · have hdue : (earlyEntry 7 "c").IsDue (earlySecond 0) (earlySecond 9) 51 :=
      ⟨earlySecond 7, rfl, by decide, by decide, by decide⟩
    have htimes := (htimes (earlyEntry 7 "c") (by decide)).1 hdue (List.ne_nil_of_mem hfirst)
    refine htimes.2 fun d hd => ?_
    have hwindow : d.window = d₁.window ∨ d.window = d₂.window := by
      have hd : d ∈ committed := hd
      rw [hcommitted, List.mem_cons, List.mem_singleton] at hd
      exact hd.imp (congrArg _) (congrArg _)
    rcases hwindow with hw | hw
    · rw [hw, hw₁]
      decide
    · rw [hw, hw₂]
      decide

/-- A collector that brings one record. -/
def frugalCollector : Collector :=
  ⟨{ Settings.default with maxLogRecords := 1 }, 51, .getRecordsMethod, .default, rfl, rfl⟩

/-- **Without a committed cycle there is a gap.** Two entries lie where the cursor stands, and
stays, since the only cycle is not committed. So no committed cycle finds more in its window than it
may bring, but none delivers the second entry either. -/
theorem gap_without_commit :
    let entries := [earlyEntry 0 "a", earlyEntry 0 "b"]
    let readings := [⟨earlySecond 0, false⟩]
    let results := frugalCollector.poll Site.serve [.null] readings ⟨earlySecond 0⟩
      [⟨.null, entries, []⟩]
    let committed := deliveries frugalCollector.floor ⟨earlySecond 0⟩ readings results
    (∀ e ∈ entries, (frugalCollector.decoders.decode e.payload).isOk = true) ∧
      (∀ d ∈ committed, (History.select entries d.window).length ≤
        frugalCollector.settings.maxLogRecords.toNat) ∧
      earlyEntry 0 "b" ∈ entries ∧
      (earlyEntry 0 "b").IsDue (earlySecond 0) (lastCursor ⟨earlySecond 0⟩ results).last
        frugalCollector.floor ∧
      (committed.countP fun d => earlyEntry 0 "b" ∈ History.select entries d.window) = 0 := by
  intro entries readings results committed
  have hnone : committed = [] := rfl
  have hlast : (lastCursor ⟨earlySecond 0⟩ results).last = earlySecond 0 := rfl
  refine ⟨by decide, by simp [hnone], by decide, ?_, by simp [hnone]⟩
  rw [hlast]
  exact ⟨earlySecond 0, rfl, le_rfl, le_rfl, by decide⟩

end LogHistory
