import LogHistory.Proofs.Quota
import LogHistory.Proofs.Sites

/-!
# Cancellation is final

A collection can be cancelled at any time: before it starts, or while any page of any source is
being waited for, before or after the source was started over. Two places in the loop see to what
follows. A call that is under way is not waited for any longer, so its source fails with the pages
that it has; and before each call the loop looks whether there is still something to do, so no
source after it is called at all.

What would have come without the cancellation is told by the same far end with the cancellations
left out (`Service.uncancelled`). The visits before the one that is cut short come to the same
there.

## What is proved

* `Collector.visitAll_of_cancelled` — once a collection is cancelled, no source is called.
* `Collector.visitAll_uncancelled` — visits after which the collection is not cancelled do not
  depend on the cancellations.
* `Collector.ComesTo` — where a collection stands when it makes a call; `exists_comesTo` says that
  each of its calls is made at such a place.
* `cancellation_final` — what comes of a collection that is cancelled, and of one whose window has
  no extent.
-/

namespace LogHistory

variable {σ : Type} {serve : Service σ}

/-! ### Sources that are not called -/

/-- A source that is not called, because the collection is cancelled. -/
def Visit.cancelled (source : NodeId) : Visit :=
  ⟨⟨source, some .cancelled, 0, 0, 0⟩, [], []⟩

theorem Window.make_of_le {start stop : Instant} (floor : UInt16) (h : start ≤ stop) :
    Window.make start stop floor = .ok ⟨start, stop, floor, h⟩ := dif_pos h

theorem Window.make_of_lt {start stop : Instant} (floor : UInt16) (h : stop < start) :
    Window.make start stop floor = .error ⟨start, stop⟩ := by
  refine dif_neg fun hle => ?_
  rw [Instant.lt_def] at h
  rw [Instant.le_def] at hle
  omega

namespace Collector

variable (c : Collector) (window : Window) (quota : Nat) (sources : List NodeId)

theorem visit_of_cancelled (source : NodeId) {link : Link σ} (h : link.cancelled = true) :
    c.visit serve (.ok window) quota source link = (.cancelled source, link) :=
  visit_eq_of_fetches (.stop (.cancelled h))

theorem visitAll_of_cancelled {link : Link σ} (h : link.cancelled = true) :
    c.visitAll serve (.ok window) quota sources link = (sources.map .cancelled, link) := by
  induction sources with
  | nil => rfl
  | cons source sources ih =>
    simp only [visitAll, c.visit_of_cancelled window quota source h, ih, List.map_cons]

theorem visitAll_of_error (e : InvalidWindow) (link : Link σ) :
    c.visitAll serve (.error e) quota sources link = (sources.map .refused, link) := by
  induction sources with
  | nil => rfl
  | cons source sources ih => simp only [visitAll, visit, ih, List.map_cons]

end Collector

/-! ### Without the cancellations -/

/-- The far end with the cancellations left out. -/
def Service.uncancelled (serve : Service σ) : Service σ := fun request state =>
  ({ (serve request state).1 with cancels := false }, (serve request state).2)

section

variable {c : Collector} {window : Window} {source : NodeId} {quota : Nat}

theorem Calls.uncancelled {f : Fetch} {link link' : Link σ} {x : Exchange}
    (h : Calls serve c window source f link x link') (hlive : link'.cancelled = false) :
    Calls serve.uncancelled c window source f link x link' := by
  obtain ⟨hbefore, hmade⟩ := h
  simp only [Service.call, Prod.mk.injEq] at hmade
  obtain ⟨rfl, rfl⟩ := hmade
  have hcancels := (Bool.or_eq_false_iff.mp hlive).2
  refine ⟨hbefore, ?_⟩
  simp only [Service.call, Service.uncancelled, hcancels]
  rfl

/-- **A run after which the collection is not cancelled** does not depend on the cancellations. -/
theorem Fetches.uncancelled {f : Fetch} {link : Link σ} {run : Run σ}
    (h : Fetches serve c window source quota f link run) (hlive : run.link.cancelled = false) :
    Fetches serve.uncancelled c window source quota f link run := by
  induction h with
  | stop h =>
    refine .stop ?_
    cases h with
    | cancelled hc => exact .cancelled hc
    | giveUp hcalls hv hf => exact .giveUp (hcalls.uncancelled hlive) hv hf
    | last hcalls hv hlast => exact .last (hcalls.uncancelled hlive) hv hlast
    | fail hcalls hv => exact .fail (hcalls.uncancelled hlive) hv
  | round h hrun ih =>
    refine .round ?_ (ih hlive)
    have hnext := hrun.live hlive
    cases h with
    | startOver hcalls hv hf => exact .startOver (hcalls.uncancelled hnext) hv hf
    | turn hcalls hv hnext' hlen htoken hremaining =>
      exact .turn (hcalls.uncancelled hnext) hv hnext' hlen htoken hremaining

end

namespace Collector

variable (c : Collector) (made : Except InvalidWindow Window) (quota : Nat)

theorem visit_uncancelled (source : NodeId) {link : Link σ}
    (hlive : (c.visit serve made quota source link).2.cancelled = false) :
    c.visit serve.uncancelled made quota source link = c.visit serve made quota source link := by
  cases made with
  | error e => rfl
  | ok window =>
    have hrun := fetchFrom_fetches serve c window source quota (.fresh quota) link
    exact visit_eq_of_fetches (hrun.uncancelled hlive)

theorem visitAll_uncancelled (sources : List NodeId) :
    ∀ {link : Link σ}, (c.visitAll serve made quota sources link).2.cancelled = false →
      c.visitAll serve.uncancelled made quota sources link =
        c.visitAll serve made quota sources link := by
  induction sources with
  | nil => intro link _; rfl
  | cons source sources ih =>
    intro link hlive
    have hrest : (c.visitAll serve made quota sources
        (c.visit serve made quota source link).2).2.cancelled = false := hlive
    have hvisit := c.visit_uncancelled made quota source (c.live_of_visitAll made quota hrest)
    simp only [visitAll, hvisit, ih hrest]

end Collector

/-! ### The call that is cut short -/

/-- A call that is cancelled while it is under way is not waited for. -/
theorem Service.call_of_cancels (limit : Duration) {request : Request} {link : Link σ}
    (hcancels : (serve request link.state).1.cancels = true)
    (hdelay : (serve request link.state).1.delay ≠ .immediate) :
    serve.call limit request link =
      (⟨request, .error .cancelled⟩, ⟨(serve request link.state).2, true⟩) := by
  have hsettle : (serve request link.state).1.settle limit true = .error .cancelled := by
    unfold Answer.settle
    cases hd : (serve request link.state).1.delay with
    | immediate => exact absurd hd hdelay
    | after ms => rfl
    | never => rfl
  simp only [Service.call, hcancels, Bool.or_true, hsettle]

/-- A source was cut short in a call: it fails for that, and what it contributes is what came since
it was last started over. Its last call is the one that was not waited for. -/
structure Visit.IsCutShort (v : Visit) (c : Collector) (source : NodeId) (request : Request) :
    Prop where
  /-- The report tells the calls, the records and what was skipped. -/
  report : v.report = ⟨source, some .cancelled, UInt32.ofNat v.exchanges.length, v.records.length,
    c.decoders.rejected (keptPayloads v.exchanges)⟩
  /-- The records are those of the pages since the source was last started over. -/
  records : v.records = c.decoders.accepted (keptPayloads v.exchanges)
  /-- No call is made after the one that was under way. -/
  last : v.exchanges.getLast? = some ⟨request, .error .cancelled⟩

theorem Fetches.isCutShort {c : Collector} {window : Window} {source : NodeId} {quota : Nat}
    {link : Link σ} {run : Run σ} {request : Request}
    (h : Fetches serve c window source quota (.fresh quota) link run)
    (hfailure : run.failure = some .cancelled)
    (hlast : run.exchanges.getLast? = some ⟨request, .error .cancelled⟩) :
    (run.visit source).IsCutShort c source request := by
  have haccounts : Accounts c.decoders (.fresh quota) (sinceRestart run.exchanges) run := by
    simpa only [ite_self] using h.accounts rfl
  have hrecords : run.fetch.records = c.decoders.accepted (keptPayloads run.exchanges) := by
    rw [haccounts.records, hfailure, if_neg (by simp)]
    rfl
  have hskipped : run.fetch.skipped = c.decoders.rejected (keptPayloads run.exchanges) :=
    haccounts.skipped.trans (Nat.zero_add _)
  have hcalls : run.fetch.calls = UInt32.ofNat run.exchanges.length :=
    h.calls_eq.trans (UInt32.zero_add _)
  refine ⟨?_, hrecords, hlast⟩
  simp only [Run.visit, hfailure, hcalls, hskipped]

namespace Collector

/-- Where a collection stands when it makes a call: it has visited the sources before, and the loop
of the source has come to the state `f`. -/
structure ComesTo (c : Collector) (serve : Service σ) (window : Window) (quota : Nat)
    (link : Link σ) (before : List NodeId) (source : NodeId) (f : Fetch) (here : Link σ) :
    Prop where
  /-- The loop of the source starts where the visits before it end. -/
  reached : Relation.ReflTransGen (GoesOn serve c window source quota)
    (.fresh quota, (c.visitAll serve (.ok window) quota before link).2) (f, here)
  /-- It is not cancelled. -/
  live : here.cancelled = false

variable {c : Collector} {window : Window} {quota : Nat} {before : List NodeId} {source : NodeId}
  {f : Fetch} {link here : Link σ}

/-- **Every call of a collection is made where the collection has come to.** -/
theorem exists_comesTo {sources : List NodeId} {link : Link σ} {x : Exchange}
    (hx : x ∈ (c.visitAll serve (.ok window) quota sources link).1.flatMap (·.exchanges)) :
    ∃ before source after f here, sources = before ++ source :: after ∧
      c.ComesTo serve window quota link before source f here ∧
      x = (serve.call c.timeout (f.request c window source) here).1 := by
  induction sources generalizing link with
  | nil => cases hx
  | cons first sources ih =>
    rcases List.mem_append.mp hx with hx | hx
    · obtain ⟨f, here, link', hreached, hcalls⟩ :=
        (fetchFrom_fetches serve c window first quota (.fresh quota) link).exists_calls hx
      exact ⟨[], first, sources, f, here, rfl, ⟨hreached, hcalls.live⟩, by rw [hcalls.made]⟩
    · obtain ⟨before, source, after, f, here, rfl, ⟨hreached, hlive⟩, hcall⟩ := ih hx
      exact ⟨first :: before, source, after, f, here, rfl, ⟨hreached, hlive⟩, hcall⟩

theorem ComesTo.live_before (h : c.ComesTo serve window quota link before source f here) :
    (c.visitAll serve (.ok window) quota before link).2.cancelled = false := by
  rcases Relation.ReflTransGen.cases_head h.reached with heq | ⟨s, ⟨x, hround⟩, -⟩
  · cases heq
    exact h.live
  · exact hround.receive_again.1.live

/-- **What comes of a source that is cut short.** -/
theorem ComesTo.exists_visit (h : c.ComesTo serve window quota link before source f here)
    (hcancels : (serve (f.request c window source) here.state).1.cancels = true)
    (hdelay : (serve (f.request c window source) here.state).1.delay ≠ .immediate) :
    ∃ v : Visit, v.IsCutShort c source (f.request c window source) ∧
      c.visit serve (.ok window) quota source
          (c.visitAll serve (.ok window) quota before link).2 =
        (v, ⟨(serve (f.request c window source) here.state).2, true⟩) := by
  have hcalls : Calls serve c window source f here _ _ :=
    ⟨h.live, Service.call_of_cancels c.timeout hcancels hdelay⟩
  obtain ⟨xs, hrun⟩ := exists_fetches_of_reached h.reached (.stop (.fail hcalls rfl))
  exact ⟨_, hrun.isCutShort rfl List.getLast?_concat, visit_eq_of_fetches hrun⟩

/-- **What comes of the sources around a call that is cut short**: those before it come to the same
as without the cancellation, and those after it are not called. -/
theorem ComesTo.exists_visitAll (h : c.ComesTo serve window quota link before source f here)
    (hcancels : (serve (f.request c window source) here.state).1.cancels = true)
    (hdelay : (serve (f.request c window source) here.state).1.delay ≠ .immediate)
    (after : List NodeId) :
    ∃ v : Visit, v.IsCutShort c source (f.request c window source) ∧
      c.visitAll serve (.ok window) quota (before ++ source :: after) link =
        ((c.visitAll serve.uncancelled (.ok window) quota (before ++ source :: after) link).1.take
            before.length ++ v :: after.map .cancelled,
          ⟨(serve (f.request c window source) here.state).2, true⟩) := by
  obtain ⟨v, hv, hvisit⟩ := h.exists_visit hcancels hdelay
  refine ⟨v, hv, ?_⟩
  have hbefore : (c.visitAll serve.uncancelled (.ok window) quota (before ++ source :: after)
      link).1.take before.length = (c.visitAll serve (.ok window) quota before link).1 := by
    rw [visitAll_append, c.visitAll_uncancelled _ _ _ h.live_before,
      List.take_left' (c.length_visitAll ..)]
  have hafter : ∀ state, c.visitAll serve (.ok window) quota after ⟨state, true⟩ =
      (after.map .cancelled, ⟨state, true⟩) :=
    fun _ => c.visitAll_of_cancelled window quota after rfl
  rw [hbefore, visitAll_append]
  simp only [visitAll, hvisit, hafter]

end Collector

/-! ### Collections -/

theorem Collector.collect_of_le (c : Collector) {sources : List NodeId} {start stop : Instant}
    {link : Link σ} (hle : start ≤ stop) :
    c.collect serve sources start stop link =
      let visited := c.visitAll serve (.ok ⟨start, stop, c.floor, hle⟩) (c.quotaOf sources) sources
        link
      (⟨visited.1⟩, visited.2) := by
  simp only [collect, Window.make_of_le c.floor hle]
  rfl

/-- **Cancellation is final, and takes nothing away that has come.** A collection whose window would
end before it starts refuses every source without calling it, cancelled or not. A collection that is
cancelled before it starts calls no source: each is reported in its turn, as cancelled. And when a
collection is cancelled during a call whose answer is not there at once, whichever call of whichever
source it is, then no call is made after it: the far end stays as that call has left it. The sources
before come to the same as without the cancellation; the source that was called is cut short, and
keeps the records of the pages since it was last started over; and the sources after it are reported
in their turn, as cancelled. -/
theorem cancellation_final (serve : Service σ) (c : Collector) (sources : List NodeId)
    (start stop : Instant) (link : Link σ) :
    (stop < start →
      c.collect serve sources start stop link = (⟨sources.map .refused⟩, link)) ∧
    (start ≤ stop → link.cancelled = true →
      c.collect serve sources start stop link = (⟨sources.map .cancelled⟩, link)) ∧
    ∀ (hle : start ≤ stop) (before : List NodeId) (source : NodeId) (after : List NodeId)
      (f : Fetch) (here : Link σ), sources = before ++ source :: after →
      let window : Window := ⟨start, stop, c.floor, hle⟩
      let request := f.request c window source
      c.ComesTo serve window (c.quotaOf sources) link before source f here →
      (serve request here.state).1.cancels = true →
      (serve request here.state).1.delay ≠ .immediate →
      ∃ v : Visit, v.IsCutShort c source request ∧
        c.collect serve sources start stop link =
          (⟨(c.collect serve.uncancelled sources start stop link).1.visits.take before.length ++
            v :: after.map .cancelled⟩, ⟨(serve request here.state).2, true⟩) := by
  refine ⟨fun hlt => ?_, fun hle hcancelled => ?_, ?_⟩
  · simp only [Collector.collect, Window.make_of_lt c.floor hlt, Collector.visitAll_of_error]
  · rw [c.collect_of_le hle, c.visitAll_of_cancelled _ _ _ hcancelled]
  · intro hle before source after f here hsources window request hcomes hcancels hdelay
    subst hsources
    obtain ⟨v, hv, hvisits⟩ := hcomes.exists_visitAll hcancels hdelay after
    refine ⟨v, hv, ?_⟩
    rw [c.collect_of_le hle, c.collect_of_le hle, hvisits]

/-- A far end that breaks at once, goes on as the forgetful one, and cancels the collection where
that one would break. -/
def interrupted : Service Nat
  | _, 0 => (⟨.immediate, false, .error (.other "gone")⟩, 1)
  | _, 4 => (⟨.never, true, .error (.other "gone")⟩, 5)
  | request, n + 1 => ((forgetful request n).1, n + 2)

/-- The window of the first instant. -/
def epochWindow : Window := ⟨.epoch, .epoch, plainCollector.floor, by decide⟩

/-- A collection of three sources from the interrupted far end. -/
def interruptedCollection (start stop : Instant) (cancelled : Bool) : Collection × Link Nat :=
  plainCollector.collect interrupted [.numeric 0 1, .null, .numeric 0 2] start stop ⟨0, cancelled⟩

/-- What the second source of the three has been through when it is called for the fourth time, and
where its run ends. -/
theorem interrupted_second : ∃ f run,
    Relation.ReflTransGen (GoesOn interrupted plainCollector epochWindow .null 333)
      (.fresh 333, ⟨1, false⟩) (f, ⟨4, false⟩) ∧
    Fetches interrupted plainCollector epochWindow .null 333 (.fresh 333) ⟨1, false⟩ run ∧
    run.link = ⟨5, true⟩ ∧ run.exchanges.length = 4 ∧
    keptPayloads run.exchanges =
      [.structured (.make .epoch 500 "b"), ⟨.logRecordType, .empty⟩] := by
  obtain ⟨f₁, f₂, f₃, x₁, x₂, x₃, x₄, h₁, h₂, h₃, h₄, hkept⟩ : ∃ f₁ f₂ f₃ x₁ x₂ x₃ x₄,
      Round interrupted plainCollector epochWindow .null 333 x₁ (.fresh 333) ⟨1, false⟩ f₁
        ⟨2, false⟩ ∧
      Round interrupted plainCollector epochWindow .null 333 x₂ f₁ ⟨2, false⟩ f₂ ⟨3, false⟩ ∧
      Round interrupted plainCollector epochWindow .null 333 x₃ f₂ ⟨3, false⟩ f₃ ⟨4, false⟩ ∧
      Stop interrupted plainCollector epochWindow .null f₃ ⟨4, false⟩
        ⟨f₃.count, some .cancelled, [x₄], ⟨5, true⟩⟩ ∧
      keptPayloads [x₁, x₂, x₃, x₄] =
        [.structured (.make .epoch 500 "b"), ⟨.logRecordType, .empty⟩] :=
    ⟨_, _, _, _, _, _, _,
      .turn ⟨rfl, rfl⟩ rfl rfl (by decide) (by decide) (by decide),
      .startOver ⟨rfl, rfl⟩ rfl rfl,
      .turn ⟨rfl, rfl⟩ rfl rfl (by decide) (by decide) (by decide),
      .fail ⟨rfl, rfl⟩ rfl, rfl⟩
  refine ⟨f₃, _, ?_, .round h₁ (.round h₂ (.round h₃ (.stop h₄))), rfl, rfl, hkept⟩
  exact .head (b := (f₁, ⟨2, false⟩)) ⟨x₁, h₁⟩ <| .head (b := (f₂, ⟨3, false⟩)) ⟨x₂, h₂⟩ <|
    .single ⟨x₃, h₃⟩

/-- The visits of the three sources, and where the collection stands before the call that is cut
short. -/
theorem interrupted_visits : ∃ f first second,
    plainCollector.ComesTo interrupted epochWindow 333 ⟨0, false⟩ [.numeric 0 1] .null f
      ⟨4, false⟩ ∧
    (interruptedCollection .epoch .epoch false).1.visits =
      [first, second, .cancelled (.numeric 0 2)] ∧
    first.report = ⟨.numeric 0 1, some (.transport (.other "gone")), 1, 0, 0⟩ ∧
    second.exchanges.length = 4 ∧
    keptPayloads second.exchanges =
      [.structured (.make .epoch 500 "b"), ⟨.logRecordType, .empty⟩] := by
  obtain ⟨run, hrun, hlink, hreport⟩ : ∃ run,
      Fetches interrupted plainCollector epochWindow (.numeric 0 1) 333 (.fresh 333) ⟨0, false⟩
        run ∧ run.link = ⟨1, false⟩ ∧ (run.visit (.numeric 0 1)).report =
        ⟨.numeric 0 1, some (.transport (.other "gone")), 1, 0, 0⟩ :=
    ⟨_, .stop (.fail ⟨rfl, rfl⟩ rfl), rfl, rfl⟩
  obtain ⟨f, run₂, hreached, hrun₂, hlink₂, hlen, hkept⟩ := interrupted_second
  have hfirst := Collector.visit_eq_of_fetches hrun
  have hsecond := Collector.visit_eq_of_fetches hrun₂
  rw [hlink] at hfirst
  rw [hlink₂] at hsecond
  refine ⟨f, run.visit (.numeric 0 1), run₂.visit .null, ⟨?_, rfl⟩, ?_, hreport, hlen, hkept⟩
  · simpa only [Collector.visitAll, hfirst] using hreached
  · have hthird : plainCollector.visit interrupted (.ok epochWindow) 333 (.numeric 0 2)
        ⟨5, true⟩ = (.cancelled (.numeric 0 2), ⟨5, true⟩) :=
      plainCollector.visit_of_cancelled _ _ _ rfl
    rw [interruptedCollection, plainCollector.collect_of_le (by decide)]
    show (plainCollector.visitAll interrupted (.ok epochWindow) 333 _ _).1 = _
    simp only [Collector.visitAll, hfirst, hsecond, hthird]

/-- The first source fails by itself; the second one is cut short in its fourth call, and keeps what
came since it was started over; the third one is not called. Cancelled beforehand, or with its ends
the wrong way round, the collection calls no source. -/
theorem cancellation_final_interrupted :
    (∃ first second, (interruptedCollection .epoch .epoch false).1.visits =
        [first, second, .cancelled (.numeric 0 2)] ∧
      first.report = ⟨.numeric 0 1, some (.transport (.other "gone")), 1, 0, 0⟩ ∧
      second.report = ⟨.null, some .cancelled, 4, 1, 1⟩ ∧
      second.records = [.ofLogRecord (.make .epoch 500 "b")] ∧
      (interruptedCollection .epoch .epoch false).2 = ⟨5, true⟩) ∧
    interruptedCollection .epoch .epoch true =
      (⟨[.cancelled (.numeric 0 1), .cancelled .null, .cancelled (.numeric 0 2)]⟩, ⟨0, true⟩) ∧
    ∃ later, interruptedCollection later .epoch true =
      (⟨[.refused (.numeric 0 1), .refused .null, .refused (.numeric 0 2)]⟩, ⟨0, true⟩) := by
  have hle : Instant.epoch ≤ .epoch := by decide
  refine ⟨?_, ?_, ⟨1, 0, by decide, by decide, by decide⟩, ?_⟩
  · obtain ⟨f, first, second, hcomes, hvisits, hfirst, hlen, hkept⟩ := interrupted_visits
    obtain ⟨v, hv, hout⟩ := (cancellation_final interrupted plainCollector
      [.numeric 0 1, .null, .numeric 0 2] .epoch .epoch ⟨0, false⟩).2.2 hle [.numeric 0 1] .null
      [.numeric 0 2] f ⟨4, false⟩ rfl hcomes rfl (show Delay.never ≠ .immediate by decide)
    have hboth : [first] ++ [second, .cancelled (.numeric 0 2)] = _ :=
      hvisits.symm.trans (congrArg (fun out => out.1.visits) hout)
    obtain ⟨rfl, -⟩ := List.cons.inj (List.append_inj_right' hboth rfl)
    have hrecords : second.records = [.ofLogRecord (.make .epoch 500 "b")] := by
      rw [hv.records, hkept]
      rfl
    refine ⟨first, second, hvisits, hfirst, ?_, hrecords, congrArg (·.2) hout⟩
    rw [hv.report, hrecords, hlen, hkept]
    rfl
  · exact (cancellation_final interrupted plainCollector _ _ _ _).2.1 hle rfl
  · exact (cancellation_final interrupted plainCollector _ _ _ _).1 (by decide)

end LogHistory
