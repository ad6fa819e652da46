import LogHistory.Proofs.Paging

/-!
# Starting over leaves no trace

A log object may give up the token of a page at any time. The source is then started over, and all
that it has brought is dropped together: the records, the count of what was skipped, the token and
what the quota had left. So from an object that is otherwise honest the second attempt brings what
the first one would have brought, whichever call it was that found the token stale. If the second
attempt is refused as well, the source is given up and contributes nothing.

Nor do the other sources notice. A site answers each from its own object, and the object in question
is at the end of its script after the visit, as it would be without faults.

## What is proved

* `LogObject.exists_run_startOver`, `LogObject.exists_run_giveUp` — what a stale reply makes of the
  first attempt and of the second.
* `visit_startOver`, `visit_giveUp` — the same of whole visits: the object is left as it would be.
* `visitsWith_of_left` — a visit that leaves its object and the link alike leaves the other visits
  as they are.
* `start_over_transparent` — what a collection makes of one stale reply, and of two.
-/

namespace LogHistory

/-! ### Scripts with stale replies -/

/-- A step that replies that the token is stale. -/
def Step.stale (outputs : List Output) : Step := ⟨.reply ⟨.staleToken, outputs⟩, .immediate, false⟩

/-- Steps that serve all calls but the last, the `k`th, which finds the token stale. -/
def staleAt (k : Nat) (outputs : List Output) : List Step :=
  List.replicate (k - 1) .plain ++ [.stale outputs]

namespace LogObject

section Steps

variable (id : NodeId) (entries : List Entry) (rest : List Step) (outputs : List Output) {k n : Nat}

theorem step_staleAt_of_lt (h : n < k) :
    step ⟨id, entries, staleAt (k + 1) outputs ++ rest⟩ n = .plain := by
  simp [step, staleAt, List.getD_eq_getElem?_getD, List.getElem?_append_left, h]

theorem step_staleAt : step ⟨id, entries, staleAt (k + 1) outputs ++ rest⟩ k = .stale outputs := by
  simp [step, staleAt, List.getD_eq_getElem?_getD]

theorem after_staleAt :
    after ⟨id, entries, staleAt (k + 1) outputs ++ rest⟩ (k + 1) = ⟨id, entries, rest⟩ := by
  have hlen : (staleAt (k + 1) outputs).length = k + 1 := by simp [staleAt]
  simp only [after, List.drop_left' hlen]

end Steps

/-! ### Runs of one object -/

variable {c : Collector} {window : Window} {source id : NodeId} {quota : Nat} {first : Fetch}
  {entries : List Entry} {payloads : List Payload} {rest : List Step} {outputs : List Output}
  {k : Nat}

variable (c window source id first entries rest outputs k) in
theorem calls_stale :
    Calls LogObject.serve c window source first
      ⟨after ⟨id, entries, staleAt (k + 1) outputs ++ rest⟩ k, false⟩
      ⟨first.request c window source, .ok ⟨.staleToken, outputs⟩⟩ ⟨⟨id, entries, rest⟩, false⟩ := by
  refine ⟨rfl, ?_⟩
  simp only [Service.call, LogObject.serve, answer_after, step_staleAt, after_staleAt]
  rfl

variable (outputs) in
/-- **The first stale reply** leads to a second attempt, which starts from nothing. -/
theorem exists_run_startOver (hpayloads : History.payloads entries window = payloads)
    (hsize : quota < UInt32.size) (hk : k < pageCount c.cap quota payloads.length)
    {run : Run LogObject}
    (hrun : Fetches LogObject.serve c window source quota
      (((Fetch.fresh quota).atPage c payloads k).count.restart quota)
      ⟨⟨id, entries, rest⟩, false⟩ run) :
    ∃ run', Fetches LogObject.serve c window source quota (.fresh quota)
        ⟨⟨id, entries, staleAt (k + 1) outputs ++ rest⟩, false⟩ run' ∧
      run'.fetch = run.fetch ∧ run'.failure = run.failure ∧
      run'.exchanges.length = k + 1 + run.exchanges.length ∧ run'.link = run.link := by
  have hcalls := calls_stale c window source id ((Fetch.fresh quota).atPage c payloads k) entries
    rest outputs k
  obtain ⟨run', hrun', hfetch, hfailure, hexchanges, hlink⟩ :=
    Fetches.of_pages hpayloads hsize rfl hk
      (fun n hn => step_staleAt_of_lt id entries rest outputs hn)
      (.round (.startOver hcalls rfl rfl) hrun)
  rw [Fetch.atPage_fresh] at hrun'
  refine ⟨run', hrun', hfetch, hfailure, ?_, hlink⟩
  rw [hexchanges, List.length_append, List.length_map, List.length_range, Run.exchanges_after,
    List.length_cons]
  omega

variable (c source id first rest outputs) in
/-- **The second stale reply** ends the run without a record. -/
theorem exists_run_giveUp (hpayloads : History.payloads entries window = payloads)
    (hsize : quota < UInt32.size) (hfirst : first.remaining = quota)
    (hrestarted : first.restarted = true) (hk : k < pageCount c.cap quota payloads.length) :
    ∃ run, Fetches LogObject.serve c window source quota (first.atPage c payloads 0)
        ⟨⟨id, entries, staleAt (k + 1) outputs ++ rest⟩, false⟩ run ∧
      run.failure = some .staleToken ∧ run.fetch.records = [] ∧
      run.exchanges.length = k + 1 ∧ run.link = ⟨⟨id, entries, rest⟩, false⟩ := by
  have hcalls := calls_stale c window source id (first.atPage c payloads k) entries rest outputs k
  obtain ⟨run, hrun, hfetch, hfailure, hexchanges, hlink⟩ :=
    Fetches.of_pages hpayloads hsize hfirst hk
      (fun n hn => step_staleAt_of_lt id entries rest outputs hn)
      (.stop (.giveUp hcalls rfl hrestarted))
  refine ⟨run, hrun, hfailure, ?_, ?_, hlink⟩
  · rw [hfetch]
  · rw [hexchanges, List.length_append, List.length_map, List.length_range]
    rfl

end LogObject

/-! ### Sites with a script for one object -/

namespace Site

/-- The site with this script for an object. -/
def withScript (site : Site) (id : NodeId) (script : List Step) : Site :=
  site.map fun o => if o.id = id then { o with script := script } else o

theorem id_of_object? {site : Site} {id : NodeId} {o : LogObject} (h : site.object? id = some o) :
    o.id = id := by
  simpa using List.find?_some h

theorem object?_withScript (site : Site) (id : NodeId) (script : List Step) (id' : NodeId) :
    (site.withScript id script).object? id' =
      (site.object? id').map fun o => if o.id = id then { o with script := script } else o := by
  have hid : ((fun o : LogObject => decide (o.id = id')) ∘
      fun o => if o.id = id then { o with script := script } else o) =
        fun o => decide (o.id = id') := by
    funext o
    simp only [Function.comp_apply]
    split_ifs <;> rfl
  rw [object?, withScript, List.find?_map, hid, object?]

theorem object?_withScript_self {site : Site} {id : NodeId} {o : LogObject}
    (h : site.object? id = some o) (script : List Step) :
    (site.withScript id script).object? id = some ⟨id, o.entries, script⟩ := by
  obtain rfl := id_of_object? h
  rw [object?_withScript, h, Option.map_some, if_pos rfl]

theorem agreeOn_withScript (site : Site) (id : NodeId) (script script' : List Step) :
    AgreeOn (· ≠ id) (site.withScript id script) (site.withScript id script') := by
  intro id' hne
  rw [object?_withScript, object?_withScript]
  cases h : site.object? id' with
  | none => rfl
  | some o =>
    have hid : o.id ≠ id := id_of_object? h ▸ hne
    simp only [Option.map_some, if_neg hid]

end Site

/-! ### Collections -/

section Visits

variable (c : Collector) (made : Except InvalidWindow Window) (quota : Nat) (site : Site)
  (source : NodeId) (before after : List NodeId) (cancelled : Bool)

/-- The visits of some sources, of one source, and of some more, if the object of the one has this
script. -/
def visitsWith (script : List Step) : List Visit :=
  (c.visitAll Site.serve made quota (before ++ source :: after)
    ⟨site.withScript source script, cancelled⟩).1

/-- The link over which the one source is visited. -/
def linkWith (script : List Step) : Link Site :=
  (c.visitAll Site.serve made quota before ⟨site.withScript source script, cancelled⟩).2

theorem visitsWith_eq (script : List Step) :
    visitsWith c made quota site source before after cancelled script =
      (c.visitAll Site.serve made quota before ⟨site.withScript source script, cancelled⟩).1 ++
        (c.visit Site.serve made quota source
          (linkWith c made quota site source before cancelled script)).1 ::
        (c.visitAll Site.serve made quota after
          (c.visit Site.serve made quota source
            (linkWith c made quota site source before cancelled script)).2).1 := by
  rw [visitsWith, Collector.visitAll_append]
  rfl

variable {source before}

/-- What comes before the one source does not depend on the script of its object. -/
theorem linkWith_alike (hbefore : source ∉ before) (script script' : List Step) :
    (c.visitAll Site.serve made quota before ⟨site.withScript source script, cancelled⟩).1 =
        (c.visitAll Site.serve made quota before ⟨site.withScript source script', cancelled⟩).1 ∧
      (linkWith c made quota site source before cancelled script).Alike (Site.AgreeOn (· ≠ source))
        (linkWith c made quota site source before cancelled script') := by
  refine c.visitAll_alike made quota (fun source' hmem => ?_)
    ⟨rfl, site.agreeOn_withScript source script script'⟩
  exact Site.alike_of_agreeOn fun heq => hbefore (heq ▸ hmem)

/-- The object of the one source is as it was when the source is visited. -/
theorem object?_linkWith (hbefore : source ∉ before) {o : LogObject}
    (hobject : site.object? source = some o) (script : List Step) :
    (linkWith c made quota site source before cancelled script).state.object? source =
      some ⟨source, o.entries, script⟩ := by
  refine c.link_visitAll made quota
    (P := fun link : Link Site => link.state.object? source = some ⟨source, o.entries, script⟩)
    (fun request link hmem hlink => ?_) (Site.object?_withScript_self hobject script)
  have hne : source ≠ request.object := fun heq => hbefore (heq ▸ hmem)
  rw [Service.call, Site.object?_serve, if_neg hne]
  exact hlink

variable (source) in
theorem agreeOn_visit (link : Link Site) :
    Site.AgreeOn (· ≠ source) link.state (c.visit Site.serve made quota source link).2.state := by
  refine c.link_visit made quota
    (P := fun link' : Link Site => Site.AgreeOn (· ≠ source) link.state link'.state)
    (fun request link' hrequest hlink' id hne => ?_) fun _ _ => rfl
  have hne' : id ≠ request.object := fun heq => hne (heq.trans hrequest)
  rw [Service.call, Site.object?_serve, if_neg hne']
  exact hlink' id hne

/-- **A visit that leaves its object and the link alike leaves the other visits as they are.** -/
theorem visitsWith_of_left (hbefore : source ∉ before) {script script' : List Step}
    {left : Link LogObject}
    (h : left.Alike (LogObject.IsAt source) (c.visit Site.serve made quota source
      (linkWith c made quota site source before cancelled script)).2)
    (h' : left.Alike (LogObject.IsAt source) (c.visit Site.serve made quota source
      (linkWith c made quota site source before cancelled script')).2) :
    visitsWith c made quota site source before after cancelled script =
      (c.visitAll Site.serve made quota before ⟨site.withScript source script', cancelled⟩).1 ++
        (c.visit Site.serve made quota source
          (linkWith c made quota site source before cancelled script)).1 ::
        (c.visitAll Site.serve made quota after
          (c.visit Site.serve made quota source
            (linkWith c made quota site source before cancelled script')).2).1 := by
  obtain ⟨hvisits, halike⟩ := linkWith_alike c made quota site cancelled hbefore script script'
  have hother := agreeOn_visit c made quota source
    (linkWith c made quota site source before cancelled script)
  have hother' := agreeOn_visit c made quota source
    (linkWith c made quota site source before cancelled script')
  have hall : Site.AgreeOn (fun _ => True)
      (c.visit Site.serve made quota source
        (linkWith c made quota site source before cancelled script)).2.state
      (c.visit Site.serve made quota source
        (linkWith c made quota site source before cancelled script')).2.state := by
    intro id _
    by_cases hid : id = source
    · rw [hid, h.related, h'.related]
    · rw [← hother id hid, ← hother' id hid, halike.related id hid]
  rw [visitsWith_eq, hvisits]
  congr 2
  exact (c.visitAll_alike made quota (fun _ _ => Site.alike_of_agreeOn trivial)
    ⟨h.cancelled.symm.trans h'.cancelled, hall⟩).1

end Visits

/-! ### Visits of one object -/

/-- A visit that brings what the visit `v` brings, after `k` calls that come to nothing. -/
structure Visit.Repeats (v' v : Visit) (k : Nat) : Prop where
  /-- The source is the same. -/
  source : v'.report.source = v.report.source
  /-- The source is done. -/
  done : v'.report.failure = none
  /-- It has the same records. -/
  records : v'.records = v.records
  /-- It reports the same records. -/
  counted : v'.report.records = v.report.records
  /-- It has skipped as many payloads. -/
  skipped : v'.report.skipped = v.report.skipped
  /-- It is called `k` times more. -/
  exchanges : v'.exchanges.length = v.exchanges.length + k
  /-- All these calls are reported. -/
  calls : v'.report.calls = UInt32.ofNat (v.exchanges.length + k)

/-- A visit whose source is given up with call `n`. -/
structure Visit.GivenUp (v : Visit) (source : NodeId) (n : Nat) : Prop where
  /-- It is this source. -/
  source : v.report.source = source
  /-- The token was refused again. -/
  failed : v.report.failure = some .staleToken
  /-- No record is left. -/
  records : v.records = []
  /-- No record is reported. -/
  counted : v.report.records = 0
  /-- There are `n` calls. -/
  exchanges : v.exchanges.length = n
  /-- All these calls are reported. -/
  calls : v.report.calls = UInt32.ofNat n

/-- A link that is not cancelled and has an object with this script for the source. -/
def Link.Has (link : Link Site) (source : NodeId) (entries : List Entry) (script : List Step) :
    Prop :=
  Link.Alike (LogObject.IsAt source) ⟨⟨source, entries, script⟩, false⟩ link

section Object

variable {c : Collector} {window : Window} {source : NodeId} {quota : Nat} {entries : List Entry}
  {outputs outputs' : List Output} {link link' : Link Site} {j k : Nat}

variable (c window) in
/-- An object that serves every call is visited to the end, and is there afterwards. -/
theorem visit_full (hquota : 0 < quota) (hsize : quota < UInt32.size)
    (h : link.Has source entries []) :
    ∃ run : Run LogObject,
      (c.visit Site.serve (.ok window) quota source link).1 = run.visit source ∧
      run.Brings c ((History.payloads entries window).take quota) ∧
      run.exchanges.length = pageCount c.cap quota (History.payloads entries window).length ∧
      (c.visit Site.serve (.ok window) quota source link).2.Has source entries [] := by
  obtain ⟨run, hrun, hbrings, hexchanges, hlink⟩ :=
    LogObject.exists_fullRun c source (.fresh quota) ⟨source, entries, []⟩
      (rfl : History.payloads entries window = _) hquota hsize rfl
      fun _ => rfl
  rw [Fetch.atPage_fresh] at hrun
  obtain ⟨hvisit, hleft⟩ := LogObject.visit_eq h hrun
  refine ⟨run, hvisit, hbrings, ?_, ?_⟩
  · rw [hexchanges, List.length_map, List.length_range]
  · rwa [hlink, LogObject.after, List.drop_nil] at hleft

/-- **One stale reply** leaves no trace but the calls before it. -/
theorem visit_startOver (hquota : 0 < quota) (hsize : quota < UInt32.size)
    (h : link.Has source entries []) (h' : link'.Has source entries (staleAt (k + 1) outputs))
    (hk : k < (c.visit Site.serve (.ok window) quota source link).1.exchanges.length) :
    (c.visit Site.serve (.ok window) quota source link').1.Repeats
        (c.visit Site.serve (.ok window) quota source link).1 (k + 1) ∧
      (c.visit Site.serve (.ok window) quota source link').2.Has source entries [] := by
  obtain ⟨full, hfull, hbrings, hlen, -⟩ := visit_full c window hquota hsize h
  rw [hfull] at hk ⊢
  simp only [Run.visit, hlen] at hk
  obtain ⟨run, hrun, hbrings', hexchanges, hlink⟩ :=
    LogObject.exists_fullRun c source
      (((Fetch.fresh quota).atPage c (History.payloads entries window) k).count.restart quota)
      ⟨source, entries, []⟩ (rfl : History.payloads entries window = _) hquota hsize rfl
      fun _ => rfl
  rw [Fetch.atPage_restart] at hrun
  obtain ⟨run', hrun', hfetch, hfailure, hexchanges', hlink'⟩ :=
    LogObject.exists_run_startOver outputs rfl hsize hk hrun
  rw [List.append_nil] at hrun'
  obtain ⟨hvisit, hleft⟩ := LogObject.visit_eq h' hrun'
  have hcount : run'.exchanges.length = full.exchanges.length + (k + 1) := by
    rw [hexchanges', hexchanges, hlen, List.length_map, List.length_range, Nat.add_comm]
  rw [hvisit]
  refine ⟨⟨rfl, ?_, ?_, ?_, ?_, hcount, ?_⟩, ?_⟩
  · exact hfailure.trans hbrings'.done
  · simp only [Run.visit, hfetch, hbrings.records, hbrings'.records]
  · simp only [Run.visit, hfetch, hbrings.records, hbrings'.records]
  · simp only [Run.visit, hfetch, hbrings.skipped, hbrings'.skipped]
  · exact (hcount ▸ hrun'.calls_eq).trans (UInt32.zero_add _)
  · rwa [hlink', hlink, LogObject.after, List.drop_nil] at hleft

/-- **A second stale reply** leaves nothing. -/
theorem visit_giveUp (hquota : 0 < quota) (hsize : quota < UInt32.size)
    (h : link.Has source entries [])
    (h' : link'.Has source entries (staleAt (k + 1) outputs ++ staleAt (j + 1) outputs'))
    (hk : k < (c.visit Site.serve (.ok window) quota source link).1.exchanges.length)
    (hj : j < (c.visit Site.serve (.ok window) quota source link).1.exchanges.length) :
    (c.visit Site.serve (.ok window) quota source link').1.GivenUp source (k + 1 + (j + 1)) ∧
      (c.visit Site.serve (.ok window) quota source link').2.Has source entries [] := by
  obtain ⟨full, hfull, -, hlen, -⟩ := visit_full c window hquota hsize h
  rw [hfull] at hk hj
  simp only [Run.visit, hlen] at hk hj
  obtain ⟨run, hrun, hfailure, hrecords, hexchanges, hlink⟩ :=
    LogObject.exists_run_giveUp c source source
      (((Fetch.fresh quota).atPage c (History.payloads entries window) k).count.restart quota)
      [] outputs' rfl hsize rfl rfl hj
  rw [Fetch.atPage_restart, List.append_nil] at hrun
  obtain ⟨run', hrun', hfetch, hfailure', hexchanges', hlink'⟩ :=
    LogObject.exists_run_startOver outputs rfl hsize hk hrun
  obtain ⟨hvisit, hleft⟩ := LogObject.visit_eq h' hrun'
  have hcount : run'.exchanges.length = k + 1 + (j + 1) := by
    rw [hexchanges', hexchanges]
  rw [hvisit]
  refine ⟨⟨rfl, ?_, ?_, ?_, hcount, ?_⟩, ?_⟩
  · exact hfailure'.trans hfailure
  · simp only [Run.visit, hfetch, hrecords]
  · simp only [Run.visit, hfetch, hrecords, List.length_nil]
  · exact (hcount ▸ hrun'.calls_eq).trans (UInt32.zero_add _)
  · rwa [hlink', hlink] at hleft

end Object

theorem Collector.live_of_exchanges {σ : Type} {serve : Service σ} (c : Collector)
    {made : Except InvalidWindow Window} {quota : Nat} {source : NodeId} {link : Link σ}
    (h : 0 < (c.visit serve made quota source link).1.exchanges.length) :
    (∃ window, made = .ok window) ∧ link.cancelled = false := by
  cases made with
  | error e => exact absurd h (Nat.lt_irrefl 0)
  | ok window =>
    refine ⟨⟨window, rfl⟩, ?_⟩
    by_contra hcancelled
    rw [Bool.not_eq_false] at hcancelled
    rw [visit, fetchFrom, if_pos hcancelled] at h
    exact absurd h (Nat.lt_irrefl 0)

section Faults

variable {c : Collector} {made : Except InvalidWindow Window} {quota : Nat} {site : Site}
  {source : NodeId} {before : List NodeId} (after : List NodeId) {cancelled : Bool} {o : LogObject}
  {j k : Nat} (outputs outputs' : List Output)

theorem linkWith_has (hbefore : source ∉ before) (hobject : site.object? source = some o)
    (h : (linkWith c made quota site source before cancelled []).cancelled = false)
    (script : List Step) :
    (linkWith c made quota site source before cancelled script).Has source o.entries script :=
  ⟨h.symm.trans (linkWith_alike c made quota site cancelled hbefore [] script).2.cancelled,
    object?_linkWith c made quota site cancelled hbefore hobject script⟩

theorem visitsWith_startOver (hquota : 0 < quota) (hsize : quota < UInt32.size)
    (hbefore : source ∉ before) (hobject : site.object? source = some o)
    (hk : k < (c.visit Site.serve made quota source
      (linkWith c made quota site source before cancelled [])).1.exchanges.length) :
    ∃ v, visitsWith c made quota site source before after cancelled (staleAt (k + 1) outputs) =
        (c.visitAll Site.serve made quota before ⟨site.withScript source [], cancelled⟩).1 ++ v ::
          (c.visitAll Site.serve made quota after (c.visit Site.serve made quota source
            (linkWith c made quota site source before cancelled [])).2).1 ∧
      v.Repeats (c.visit Site.serve made quota source
        (linkWith c made quota site source before cancelled [])).1 (k + 1) := by
  obtain ⟨⟨window, rfl⟩, hlive⟩ := c.live_of_exchanges (Nat.zero_lt_of_lt hk)
  have hhas := linkWith_has hbefore hobject hlive
  obtain ⟨-, -, -, -, hleft⟩ := visit_full c window hquota hsize (hhas [])
  obtain ⟨hrepeats, hleft'⟩ :=
    visit_startOver hquota hsize (hhas []) (hhas (staleAt (k + 1) outputs)) hk
  exact ⟨_, visitsWith_of_left c _ quota site after cancelled hbefore hleft' hleft, hrepeats⟩

theorem visitsWith_giveUp (hquota : 0 < quota) (hsize : quota < UInt32.size)
    (hbefore : source ∉ before) (hobject : site.object? source = some o)
    (hk : k < (c.visit Site.serve made quota source
      (linkWith c made quota site source before cancelled [])).1.exchanges.length)
    (hj : j < (c.visit Site.serve made quota source
      (linkWith c made quota site source before cancelled [])).1.exchanges.length) :
    ∃ v, visitsWith c made quota site source before after cancelled
          (staleAt (k + 1) outputs ++ staleAt (j + 1) outputs') =
        (c.visitAll Site.serve made quota before ⟨site.withScript source [], cancelled⟩).1 ++ v ::
          (c.visitAll Site.serve made quota after (c.visit Site.serve made quota source
            (linkWith c made quota site source before cancelled [])).2).1 ∧
      v.GivenUp source (k + 1 + (j + 1)) := by
  obtain ⟨⟨window, rfl⟩, hlive⟩ := c.live_of_exchanges (Nat.zero_lt_of_lt hk)
  have hhas := linkWith_has hbefore hobject hlive
  obtain ⟨-, -, -, -, hleft⟩ := visit_full c window hquota hsize (hhas [])
  obtain ⟨hgivenUp, hleft'⟩ := visit_giveUp hquota hsize (hhas []) (hhas _) hk hj
  exact ⟨_, visitsWith_of_left c _ quota site after cancelled hbefore hleft' hleft, hgivenUp⟩

end Faults

/-- **Starting over leaves no trace.** Take a site that has an object for a source which serves
every call, and let `v` be the visit of that source. Where the object refuses the token of call `k`
instead, whichever call of the visit it is, the source is called `k` times more and brings the same.
Where it then also refuses call `j` of the second attempt, the source is given up with that call and
brings nothing. In either case all other visits are what they are without faults. -/
theorem start_over_transparent (c : Collector) (site : Site) (source : NodeId)
    (hsource : (site.object? source).isSome) (before after : List NodeId)
    (hbefore : source ∉ before) (start stop : Instant) (cancelled : Bool) :
    let visits := fun script => (c.collect Site.serve (before ++ source :: after) start stop
      ⟨site.withScript source script, cancelled⟩).1.visits
    ∃ vs v ws, visits [] = vs ++ v :: ws ∧ vs.length = before.length ∧ v.report.source = source ∧
      ∀ k, 1 ≤ k → k ≤ v.exchanges.length → ∀ outputs,
        (∃ v', visits (staleAt k outputs) = vs ++ v' :: ws ∧ v'.Repeats v k) ∧
        ∀ j, 1 ≤ j → j ≤ v.exchanges.length → ∀ outputs',
          ∃ v', visits (staleAt k outputs ++ staleAt j outputs') = vs ++ v' :: ws ∧
            v'.GivenUp source (k + j) := by
  intro visits
  obtain ⟨o, hobject⟩ := Option.isSome_iff_exists.mp hsource
  let made := Window.make start stop c.floor
  let quota := c.settings.quotaFor (before ++ source :: after).length
  have hvisits : ∀ script, visits script =
      visitsWith c made quota site source before after cancelled script := fun _ => rfl
  have hquota : 0 < quota := c.settings.quotaFor_pos _
  have hsize : quota < UInt32.size := c.settings.quotaFor_lt _
  refine ⟨_, _, _, (hvisits []).trans (visitsWith_eq ..), c.length_visitAll .., c.source_visit ..,
    fun k hk hkC outputs => ?_⟩
  obtain ⟨k, rfl⟩ := Nat.exists_eq_add_of_le' hk
  refine ⟨visitsWith_startOver after outputs hquota hsize hbefore hobject hkC,
    fun j hj hjC outputs' => ?_⟩
  obtain ⟨j, rfl⟩ := Nat.exists_eq_add_of_le' hj
  exact visitsWith_giveUp after outputs outputs' hquota hsize hbefore hobject hkC hjC

/-- Of five entries the thrifty collector takes three in two calls. If the second of them finds the
token stale, the same come with four calls; if the third does so too, it is the last one. -/
theorem start_over_transparent_fiveEntries :
    let visits := fun script => (thriftyCollector.collect Site.serve [.null] .epoch .epoch
      ⟨Site.withScript [⟨.null, fiveEntries, []⟩] .null script, false⟩).1.visits
    ∃ v v' v'' ws, visits [] = v :: ws ∧ v.exchanges.length = 2 ∧
      visits (staleAt 2 []) = v' :: ws ∧ v'.Repeats v 2 ∧
      visits (staleAt 2 [] ++ staleAt 1 []) = v'' :: ws ∧ v''.GivenUp .null 3 := by
  intro visits
  obtain ⟨vs, v, ws, hvisits, hlen, -, hfaults⟩ := start_over_transparent thriftyCollector
    [⟨.null, fiveEntries, []⟩] .null rfl [] [] List.not_mem_nil .epoch .epoch false
  obtain rfl := List.length_eq_zero_iff.mp hlen
  have hready : Site.Ready .null fiveEntries ⟨[⟨.null, fiveEntries, []⟩], false⟩ := by
    refine ⟨rfl, fun id o ho => ?_, rfl⟩
    obtain rfl := List.mem_singleton.mp (List.mem_of_find?_eq_some ho)
    exact fun step hstep => absurd hstep List.not_mem_nil
  have hcalls : v.exchanges.length = 2 := by
    obtain rfl := (List.cons.inj hvisits).1
    exact (hready.visit_isPaged thriftyCollector (by decide) (by decide) rfl).calls
  obtain ⟨⟨v', hv', hrepeats⟩, htwice⟩ := hfaults 2 (by decide) hcalls.ge []
  obtain ⟨v'', hv'', hgivenUp⟩ := htwice 1 (by decide) (by omega) []
  exact ⟨v, v', v'', ws, hvisits, hcalls, hv', hrepeats, hv'', hgivenUp⟩

end LogHistory
