import LogHistory.Proofs.Paging
import Mathlib.Data.List.SplitLengths

/-!
# Sources do not disturb one another

The sources of a collection are visited one after another over the same link, and whatever happens
at one of them, a bad status, a broken connection, a call that is waited for in vain or a token that
no log object ever gave out, the next one starts from nothing but the quota. So if the far end is
made of objects that share nothing (`Service.MadeOf`), a source brings what it would bring if it
were the only one, and what the other objects do cannot be told from it.

There are two exceptions, and the main statement excludes them: a source that is listed twice meets
its own object in the state that its first visit left, and a collection that is cancelled calls no
source any more.

## What is proved

* `Service.MadeOf.alike` — far ends that have the same object for a source answer its calls alike.
* `Service.MadeOf.visitAll_eq_map` — the visits of distinct sources are those of each source alone.
* `Collection.segments_eq` — the reports tell where the records of one source end.
* `sources_isolated` — of a whole collection, and of two that differ in the other objects.
-/

namespace LogHistory

variable {σ σ' τ : Type}

/-! ### Far ends made of objects -/

/-- The far end is made of objects, each with a state of its own: a call is answered by the object
that is called, from the state of that object, and leaves the other objects as they are. -/
structure Service.MadeOf (serve : Service σ) (own : NodeId → Service τ)
    (state : σ → NodeId → τ) : Prop where
  /-- The object that is called answers. -/
  answer (request : Request) (s : σ) : (serve request s).1 =
    (own request.object request (state s request.object)).1
  /-- It goes on to its next state. -/
  called (request : Request) (s : σ) : state (serve request s).2 request.object =
    (own request.object request (state s request.object)).2
  /-- No other object does. -/
  other (request : Request) (s : σ) (id : NodeId) (h : id ≠ request.object) :
    state (serve request s).2 id = state s id

/-- What a site does with a call of an object that may not be there. -/
def LogObject.serve? : Service (Option LogObject)
  | _, none => (⟨.immediate, false, .ok ⟨.nodeIdUnknown, []⟩⟩, none)
  | request, some o => ((o.answer request).1, some (o.answer request).2)

/-- **A site is made of its log objects.** -/
theorem Site.madeOf :
    Service.MadeOf Site.serve (fun _ => LogObject.serve?) fun site id => site.object? id where
  answer request site := by
    rw [answer_serve]
    cases site.object? request.object <;> rfl
  called request site := by
    rw [object?_serve, if_pos rfl]
    cases site.object? request.object <;> rfl
  other request site id h := by rw [object?_serve, if_neg h]

/-! ### Visits -/

namespace Service.MadeOf

variable {serve : Service σ} {serve' : Service σ'} {own own' : NodeId → Service τ}
  {state : σ → NodeId → τ} {state' : σ' → NodeId → τ} {source : NodeId} {sources : List NodeId}
  {link : Link σ}

theorem alike (h : serve.MadeOf own state) (h' : serve'.MadeOf own' state')
    (hown : own source = own' source) :
    serve.Alike serve' source fun s s' => state s source = state' s' source := by
  rintro request s s' rfl hstate
  refine ⟨?_, ?_⟩
  · rw [h.answer, h'.answer, hown, hstate]
  · show state _ _ = state' _ _
    rw [h.called, h'.called, hown, hstate]

variable (c : Collector) (made : Except InvalidWindow Window) (quota : Nat)

theorem state_visit (h : serve.MadeOf own state) {id : NodeId} (hid : id ≠ source) :
    state (c.visit serve made quota source link).2.state id = state link.state id := by
  refine c.link_visit made quota
    (P := fun link' : Link σ => state link'.state id = state link.state id)
    (fun request link' hrequest hlink' => ?_) rfl
  rw [Service.call, h.other _ _ _ (hrequest ▸ hid), hlink']

/-- **The visits of distinct sources are those of each source alone**, unless the collection is
cancelled. -/
theorem visitAll_eq_map (h : serve.MadeOf own state) (hdistinct : sources.Nodup) :
    ∀ {link : Link σ}, (c.visitAll serve made quota sources link).2.cancelled = false →
      (c.visitAll serve made quota sources link).1 =
        sources.map fun source => (c.visit serve made quota source link).1 := by
  induction sources with
  | nil => intro link _; rfl
  | cons first sources ih =>
    intro link hlive
    obtain ⟨hfirst, hrest⟩ := List.nodup_cons.mp hdistinct
    have hnext : (c.visit serve made quota first link).2.cancelled = false :=
      c.live_of_visitAll made quota hlive
    refine congrArg (_ :: ·) ((ih hrest hlive).trans (List.map_congr_left fun source hmem => ?_))
    -- The first visit has left the object of this source as it was.
    have hid : source ≠ first := fun heq => hfirst (heq ▸ hmem)
    exact (c.visit_alike made quota (h.alike h rfl)
      ⟨hnext.trans (c.live_of_visit made quota hnext).symm, h.state_visit c made quota hid⟩).1

end Service.MadeOf

/-! ### Segments -/

/-- The records of a collection, cut into as many for each source as its report says. -/
def Collection.segments (c : Collection) : List (List TelemetryRecord) :=
  (c.reports.map (·.records)).splitLengths c.records

/-- **The reports tell where the records of one source end.** -/
theorem Collection.segments_eq {c : Collection}
    (h : ∀ v ∈ c.visits, v.report.records = v.records.length) :
    c.segments = c.visits.map (·.records) := by
  obtain ⟨visits⟩ := c
  simp only [segments, reports, records, List.map_map]
  induction visits with
  | nil => rfl
  | cons v visits ih =>
    rw [List.forall_mem_cons] at h
    simp only [List.map_cons, Function.comp_apply, h.1, List.flatMap_cons, List.splitLengths_cons,
      List.take_left, List.drop_left, ih h.2]

theorem Collector.segments_collect (c : Collector) (serve : Service σ) (sources : List NodeId)
    (start stop : Instant) (link : Link σ) :
    (c.collect serve sources start stop link).1.segments =
      (c.collect serve sources start stop link).1.visits.map (·.records) :=
  Collection.segments_eq fun _ hv => (quota_of_mem hv).2.1

/-! ### Collections -/

/-- The visit of a source as if it were the only one, with the quota that it has among these. -/
def Collector.visitAlone (c : Collector) (serve : Service σ) (sources : List NodeId)
    (start stop : Instant) (link : Link σ) (source : NodeId) : Visit :=
  (c.visit serve (Window.make start stop c.floor) (c.quotaOf sources) source link).1

theorem Service.MadeOf.collect_eq_map {serve : Service σ} {own : NodeId → Service τ}
    {state : σ → NodeId → τ} (h : serve.MadeOf own state) (c : Collector) {sources : List NodeId}
    (hdistinct : sources.Nodup) {start stop : Instant} {link : Link σ}
    (hlive : (c.collect serve sources start stop link).2.cancelled = false) :
    (c.collect serve sources start stop link).1.reports =
        sources.map (fun source => (c.visitAlone serve sources start stop link source).report) ∧
      (c.collect serve sources start stop link).1.segments =
        sources.map fun source => (c.visitAlone serve sources start stop link source).records := by
  have hvisits : (c.collect serve sources start stop link).1.visits =
      sources.map (c.visitAlone serve sources start stop link) :=
    h.visitAll_eq_map c (Window.make start stop c.floor) (c.quotaOf sources) hdistinct hlive
  rw [c.segments_collect, Collection.reports, hvisits, List.map_map, List.map_map]
  exact ⟨rfl, rfl⟩

/-- **Sources do not disturb one another.** Let the far end be made of objects, let the sources be
distinct, and let the collection not be cancelled. Then there is a report for each source and in
their order, the records are those of the sources one after another, as many of each as its report
says, and the report and the records of a source are those of its visit alone with the same quota.
So whatever the other objects are, and whatever they do, in another collection of the same sources a
source has the same report and the same records, as long as its own object is the same and starts
from the same state. -/
theorem sources_isolated (c : Collector) {serve : Service σ} {own : NodeId → Service τ}
    {state : σ → NodeId → τ} (hmade : serve.MadeOf own state) {sources : List NodeId}
    (hdistinct : sources.Nodup) (start stop : Instant) (link : Link σ)
    (hlive : (c.collect serve sources start stop link).2.cancelled = false) :
    let out := (c.collect serve sources start stop link).1
    let alone := c.visitAlone serve sources start stop link
    out.reports.map (·.source) = sources ∧
    out.segments.flatten = out.records ∧
    out.segments.map List.length = out.reports.map (·.records) ∧
    out.reports = sources.map (fun source => (alone source).report) ∧
    out.segments = sources.map (fun source => (alone source).records) ∧
    ∀ {σ' : Type} {serve' : Service σ'} {own' : NodeId → Service τ} {state' : σ' → NodeId → τ}
      (link' : Link σ'), serve'.MadeOf own' state' →
      let other := c.collect serve' sources start stop link'
      other.2.cancelled = false →
      ∀ (i : Nat) (source : NodeId), sources[i]? = some source → own source = own' source →
        state link.state source = state' link'.state source →
        other.1.reports[i]? = out.reports[i]? ∧ other.1.segments[i]? = out.segments[i]? := by
  intro out alone
  obtain ⟨hreports, hsegments⟩ := hmade.collect_eq_map c hdistinct hlive
  refine ⟨c.sources_collect serve sources start stop link, ?_, ?_, hreports, hsegments, ?_⟩
  · rw [c.segments_collect]
    rfl
  · rw [c.segments_collect, Collection.reports, List.map_map, List.map_map]
    exact List.map_congr_left fun v hv => (Collector.quota_of_mem hv).2.1.symm
  · intro σ' serve' own' state' link' hmade' other hlive' i source hi hown hstate
    obtain ⟨hreports', hsegments'⟩ := hmade'.collect_eq_map c hdistinct hlive'
    have hcancelled : link.cancelled = link'.cancelled :=
      (c.live_of_visitAll _ _ hlive).trans (c.live_of_visitAll _ _ hlive').symm
    have halone : alone source = c.visitAlone serve' sources start stop link' source :=
      (c.visit_alike _ _ (hmade.alike hmade' hown) ⟨hcancelled, hstate⟩).1
    refine ⟨?_, ?_⟩
    · rw [hreports', hreports, List.getElem?_map, List.getElem?_map, hi, Option.map_some,
        Option.map_some, ← halone]
    · rw [hsegments', hsegments, List.getElem?_map, List.getElem?_map, hi, Option.map_some,
        Option.map_some, ← halone]

theorem Site.Ready.collect {source : NodeId} {entries : List Entry} {link : Link Site}
    (h : Site.Ready source entries link) (c : Collector) (sources : List NodeId)
    (start stop : Instant) :
    Site.Ready source entries (c.collect Site.serve sources start stop link).2 :=
  c.link_visitAll (Window.make start stop c.floor) (c.quotaOf sources)
    (fun request _ _ h => h.call c.timeout request) h

/-- Two log objects, the first of which holds nothing and follows a script. -/
def unevenSite (script : List Step) : Site :=
  [⟨.numeric 0 1, [], script⟩, ⟨.null, fiveEntries, []⟩]

/-- A collection of the two. -/
def unevenCollection (script : List Step) : Collection :=
  (thriftyCollector.collect Site.serve [.numeric 0 1, .null] .epoch .epoch
    ⟨unevenSite script, false⟩).1

/-- Whether the connection to the first object breaks or its answer never comes, the second object
is reported alike and brings its first entry, which is its share of the three. -/
theorem sources_isolated_uneven :
    let broken := unevenCollection [⟨.fail (.connectionLost "gone"), .immediate, false⟩]
    let hanging := unevenCollection [⟨.serve, .never, false⟩]
    hanging.reports[1]? = broken.reports[1]? ∧ hanging.segments[1]? = broken.segments[1]? ∧
      broken.segments[1]? = some [.ofLogRecord (.make .epoch 500 "a")] := by
  have hready : ∀ script : List Step, (∀ step ∈ script, step.cancels = false) →
      Site.Ready .null fiveEntries ⟨unevenSite script, false⟩ := by
    refine fun script hquiet => ⟨rfl, fun id o ho => ?_, rfl⟩
    have hmem := List.mem_of_find?_eq_some ho
    simp only [unevenSite, List.mem_cons, List.not_mem_nil, or_false] at hmem
    rcases hmem with rfl | rfl
    · exact hquiet
    · exact fun step hstep => absurd hstep List.not_mem_nil
  have hbroken := hready [⟨.fail (.connectionLost "gone"), .immediate, false⟩] (by decide)
  have hhanging := hready [⟨.serve, .never, false⟩] (by decide)
  have hdistinct : [NodeId.numeric 0 1, .null].Nodup := by decide
  intro broken hanging
  obtain ⟨-, -, -, -, hsegments, hother⟩ := sources_isolated thriftyCollector Site.madeOf hdistinct
    .epoch .epoch _ (hbroken.collect thriftyCollector _ _ _).live
  obtain ⟨hreport, hsegment⟩ := hother _ Site.madeOf (hhanging.collect thriftyCollector _ _ _).live
    1 .null rfl rfl rfl
  have hpaged : (thriftyCollector.visitAlone Site.serve [.numeric 0 1, .null] .epoch .epoch
      ⟨unevenSite [⟨.fail (.connectionLost "gone"), .immediate, false⟩], false⟩ .null).IsPaged
        thriftyCollector 1 (fiveEntries.map (·.payload)) :=
    hbroken.visit_isPaged thriftyCollector (by decide) (by decide) rfl
  refine ⟨hreport, hsegment, ?_⟩
  rw [show broken.segments = _ from hsegments]
  exact congrArg some hpaged.records

end LogHistory
