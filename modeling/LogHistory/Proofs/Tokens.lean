import LogHistory.Collect.Cycle
import LogHistory.Proofs.Quota
import Mathlib.Data.List.Chain

/-!
# Tokens are handed on

The token of a page is good for one call only: the next one of the same source, in the same
collection. A log object may have forgotten it later on, and another one never knew it. So what a
call carries is told by the call right before it (`Exchange.HandsOn`), and by nothing else that has
ever come back: after a stale reply it carries no token, and after a page the token that came with
it. The first call of a visit carries none.

Whatever else is said of the tokens follows from this. A token that is sent has just been given out
by the object that it is sent to, none is empty, none is sent twice in a row, and one from before a
source was started over comes back only if the object gives it out anew.

## What is proved

* `Round.handsOn` — what a round leaves for the next call.
* `Fetches.handsOn` — so the calls of a run hand their tokens on.
* `Visit.Disciplined` — what holds of the calls of a visit.
* `tokens_disciplined` — of every visit of any number of collections, over any far end.
-/

namespace LogHistory

/-! ### Calls in a row -/

/-- The call brings the token of a next page: it comes back good, with two results or more, of which
the second is this byte string, and the byte string is not empty. -/
def Exchange.Issues (x : Exchange) (token : Bytes) : Prop :=
  token ≠ [] ∧ ∃ status first rest, status.isGood = true ∧
    x.outcome = .ok ⟨status, first :: .byteString (some token) :: rest⟩

/-- What the call `y`, right after the call `x`, carries. -/
inductive Exchange.HandsOn (x y : Exchange) : Prop where
  /-- The token was stale, and the source is started over without one. -/
  | startOver : x.isStale = true → y.request.token = none → HandsOn x y
  /-- A page has come, whose token is carried on. It is not the one that was just sent. -/
  | turn {token : Bytes} : x.isStale = false → x.Issues token → y.request.token = some token →
      x.request.token ≠ some token → HandsOn x y

theorem Output.eq_of_token? {o : Output} {token : Bytes} (h : o.token? = some token) :
    o = .byteString (some token) ∧ token ≠ [] := by
  match o with
  | .byteString (some (b :: bs)) =>
    cases h
    exact ⟨rfl, List.cons_ne_nil b bs⟩
  | .byteString (some []) | .byteString none | .records _ | .null => cases h

theorem Exchange.issues_of_verdict {x : Exchange} {page : Page} {token : Bytes}
    (hv : x.verdict = .page page) (hnext : page.next = some token) : x.Issues token := by
  obtain ⟨request, outcome⟩ := x
  cases outcome with
  | error e => cases hv
  | ok reply =>
    obtain ⟨status, outputs⟩ := reply
    simp only [verdict] at hv
    split_ifs at hv with hi hs hg
    rw [Bool.not_eq_true, Bool.not_eq_false'] at hg
    match outputs with
    | [] | [_] => cases hv
    | first :: second :: rest =>
      cases hv
      obtain ⟨rfl, hne⟩ := Output.eq_of_token? hnext
      exact ⟨hne, status, first, rest, hg, rfl⟩

theorem Exchange.Issues.isStale_eq {x : Exchange} {token : Bytes} (h : x.Issues token) :
    x.isStale = false := by
  obtain ⟨-, status, first, rest, hgood, houtcome⟩ := h
  have hne : status ≠ .staleToken := by
    rintro rfl
    exact absurd hgood (by decide)
  simp [isStale, houtcome, hne]

section

variable {xs : List Exchange} {y : Exchange} {token : Bytes} {n : Nat}

/-- Where calls hand their tokens on, a token that is sent was issued by the call right before. -/
theorem exists_issues (hfirst : ∀ x ∈ xs.head?, x.request.token = none)
    (hnext : xs.IsChain Exchange.HandsOn) (hy : xs[n]? = some y)
    (htoken : y.request.token = some token) :
    ∃ m x, n = m + 1 ∧ xs[m]? = some x ∧ x.Issues token ∧ x.request.token ≠ some token := by
  cases n with
  | zero =>
    have hnone := hfirst y (List.head?_eq_getElem? ▸ hy)
    rw [hnone] at htoken
    cases htoken
  | succ m =>
    obtain ⟨hlt, rfl⟩ := List.getElem?_eq_some_iff.mp hy
    have hm : xs[m]? = some xs[m] := List.getElem?_eq_getElem (Nat.lt_of_succ_lt hlt)
    cases List.isChain_iff_getElem.mp hnext m hlt with
    | startOver _ hnone =>
      rw [hnone] at htoken
      cases htoken
    | turn _ hissues hsent hne =>
      obtain rfl := Option.some.inj (hsent.symm.trans htoken)
      exact ⟨m, xs[m], rfl, hm, hissues, hne⟩

theorem exists_reissues (hfirst : ∀ x ∈ xs.head?, x.request.token = none)
    (hnext : xs.IsChain Exchange.HandsOn) {k : Nat} {x : Exchange} (hk : k < n)
    (hx : xs[k]? = some x) (hstale : x.isStale = true) (hy : xs[n]? = some y)
    (htoken : y.request.token = some token) :
    ∃ m z, k < m ∧ m < n ∧ xs[m]? = some z ∧ z.Issues token := by
  obtain ⟨m, z, rfl, hz, hissues, -⟩ := exists_issues hfirst hnext hy htoken
  refine ⟨m, z, Nat.lt_of_le_of_ne (Nat.le_of_lt_succ hk) ?_, Nat.lt_succ_self m, hz, hissues⟩
  -- The stale reply itself issues nothing.
  rintro rfl
  obtain rfl := Option.some.inj (hx.symm.trans hz)
  rw [hissues.isStale_eq] at hstale
  cases hstale

end

/-! ### Runs -/

section

variable {σ : Type} {serve : Service σ} {c : Collector} {window : Window} {source : NodeId}
  {quota : Nat}

/-- **A round leaves the token for the next call.** -/
theorem Round.handsOn {x : Exchange} {f f' : Fetch} {link link' : Link σ}
    (h : Round serve c window source quota x f link f' link') {y : Exchange}
    (hy : y.request.token = f'.token) : x.HandsOn y := by
  cases h with
  | startOver _ hv _ => exact .startOver (Exchange.of_verdict_stale hv).1 hy
  | turn hcalls hv hnext _ hne _ =>
    have hissues := Exchange.issues_of_verdict hv hnext
    refine .turn hissues.isStale_eq hissues hy ?_
    rw [hcalls.request_eq]
    exact hne

theorem Stop.exchanges_eq {f : Fetch} {link : Link σ} {run : Run σ}
    (h : Stop serve c window source f link run) :
    run.exchanges = [] ∨ ∃ x, run.exchanges = [x] ∧ x.request = f.request c window source := by
  cases h with
  | cancelled => exact .inl rfl
  | giveUp hcalls | last hcalls | fail hcalls => exact .inr ⟨_, rfl, hcalls.request_eq⟩

/-- **The calls of a run hand their tokens on**, from the one that the run starts with. -/
theorem Fetches.handsOn {f : Fetch} {link : Link σ} {run : Run σ}
    (h : Fetches serve c window source quota f link run) :
    (∀ x ∈ run.exchanges.head?, x.request.token = f.token) ∧
      run.exchanges.IsChain Exchange.HandsOn := by
  induction h with
  | stop h =>
    rcases h.exchanges_eq with hnil | ⟨x, hone, hrequest⟩
    · rw [hnil]
      exact ⟨by simp, .nil⟩
    · rw [hone]
      refine ⟨fun y hy => ?_, .singleton x⟩
      cases hy
      rw [hrequest]
      rfl
  | @round x f f' link link' run h _ ih =>
    rw [Run.exchanges_after]
    refine ⟨fun y hy => ?_, List.isChain_cons.mpr ⟨fun y hy => h.handsOn (ih.1 y hy), ih.2⟩⟩
    cases hy
    rw [h.receive_again.1.request_eq]
    rfl

end

/-! ### Visits -/

/-- The calls of a visit are made for one source, with the arguments of one window, and hand their
tokens on. -/
structure Visit.Disciplined (v : Visit) (c : Collector) (start stop : Instant) : Prop where
  /-- Every call goes to the source, by the method that is set. -/
  addressed : ∀ x ∈ v.exchanges, x.request.object = v.report.source ∧ x.request.method = c.method
  /-- It names the window, the least severity that is set, all optional fields, and its token. -/
  arguments : ∀ x ∈ v.exchanges, start ≤ stop ∧ ∃ n, x.request.arguments =
    [.dateTime start, .dateTime stop, .uint32 n, .uint16 c.floor, .uint32 0x1F,
      .byteString x.request.token]
  /-- The first call carries no token. -/
  first : ∀ x ∈ v.exchanges.head?, x.request.token = none
  /-- What each other call carries is told by the call right before it. -/
  next : v.exchanges.IsChain Exchange.HandsOn
  /-- A token that is sent was issued by the call right before, which had not sent it. -/
  issued : ∀ (n : Nat) (y : Exchange) (token : Bytes), v.exchanges[n]? = some y →
    y.request.token = some token →
    ∃ m x, n = m + 1 ∧ v.exchanges[m]? = some x ∧ x.Issues token ∧ x.request.token ≠ some token
  /-- A token that is sent after a stale reply was issued after it. -/
  reissued : ∀ (k n : Nat) (x y : Exchange) (token : Bytes), k < n → v.exchanges[k]? = some x →
    x.isStale = true → v.exchanges[n]? = some y → y.request.token = some token →
    ∃ m z, k < m ∧ m < n ∧ v.exchanges[m]? = some z ∧ z.Issues token

theorem filter_exchanges {visits : List Visit}
    (haddressed : ∀ v ∈ visits, ∀ x ∈ v.exchanges, x.request.object = v.report.source)
    (hdistinct : (visits.map (·.report.source)).Nodup) {v : Visit} (hv : v ∈ visits) :
    (visits.flatMap (·.exchanges)).filter (·.request.object = v.report.source) = v.exchanges := by
  induction visits with
  | nil => cases hv
  | cons w visits ih =>
    obtain ⟨hw, hrest⟩ := List.forall_mem_cons.mp haddressed
    obtain ⟨hnotMem, hdistinct⟩ := List.nodup_cons.mp hdistinct
    rw [List.flatMap_cons, List.filter_append]
    rcases List.mem_cons.mp hv with rfl | hv
    · have hown : v.exchanges.filter (·.request.object = v.report.source) = v.exchanges :=
        List.filter_eq_self.mpr fun x hx => decide_eq_true (hw x hx)
      have hothers : (visits.flatMap (·.exchanges)).filter
          (·.request.object = v.report.source) = [] := by
        refine List.filter_eq_nil_iff.mpr fun x hx => ?_
        obtain ⟨u, hu, hx⟩ := List.mem_flatMap.mp hx
        rw [decide_eq_true_iff, hrest u hu x hx]
        exact fun heq => hnotMem (List.mem_map.mpr ⟨u, hu, heq⟩)
      rw [hown, hothers, List.append_nil]
    · have hother : w.exchanges.filter (·.request.object = v.report.source) = [] := by
        refine List.filter_eq_nil_iff.mpr fun x hx => ?_
        rw [decide_eq_true_iff, hw x hx]
        exact fun heq => hnotMem (List.mem_map.mpr ⟨v, hv, heq.symm⟩)
      rw [hother, List.nil_append, ih hrest hdistinct hv]

/-- The calls of a collection from these sources: visit by visit they are disciplined, and of a
source that is listed once there are no others. -/
structure Collection.Disciplined (out : Collection) (c : Collector) (sources : List NodeId)
    (start stop : Instant) : Prop where
  /-- Every source is visited in its turn. -/
  reported : out.reports.map (·.source) = sources
  /-- Every visit is disciplined. -/
  visits : ∀ v ∈ out.visits, v.Disciplined c start stop
  /-- If the sources are distinct, a visit has all the calls to its source. -/
  whole : sources.Nodup → ∀ v ∈ out.visits,
    out.exchanges.filter (·.request.object = v.report.source) = v.exchanges

section

variable {σ : Type} (serve : Service σ) (c : Collector)

/-- **The visits of a collection are disciplined.** -/
theorem Collector.disciplined_of_mem {sources : List NodeId} {start stop : Instant} {link : Link σ}
    {v : Visit} (h : v ∈ (c.collect serve sources start stop link).1.visits) :
    v.Disciplined c start stop := by
  rcases c.exists_fetches_of_mem h with
    ⟨source, rfl⟩ | ⟨window, source, link', run, hwindow, hrun, rfl⟩
  · constructor <;> simp [Visit.refused]
  · obtain ⟨hle, rfl⟩ : ∃ hle : start ≤ stop, window = ⟨start, stop, c.floor, hle⟩ := by
      unfold Window.make at hwindow
      split_ifs at hwindow with hle
      exact ⟨hle, (Except.ok.inj hwindow).symm⟩
    obtain ⟨hfirst, hnext⟩ := hrun.handsOn
    have hrequest : ∀ x ∈ run.exchanges, ∃ f : Fetch,
        x.request = f.request c ⟨start, stop, c.floor, hle⟩ source := by
      intro x hx
      obtain ⟨f, here, link', -, hcalls⟩ := hrun.exists_calls hx
      exact ⟨f, hcalls.request_eq⟩
    exact {
      addressed := fun x hx => by
        obtain ⟨f, hf⟩ := hrequest x hx
        rw [hf]
        exact ⟨rfl, rfl⟩
      arguments := fun x hx => by
        obtain ⟨f, hf⟩ := hrequest x hx
        rw [hf]
        exact ⟨hle, UInt32.ofNat (f.ask c.cap), rfl⟩
      first := hfirst
      next := hnext
      issued := fun n y token => exists_issues hfirst hnext
      reissued := fun k n x y token => exists_reissues hfirst hnext }

theorem Collector.disciplined_collect (sources : List NodeId) (start stop : Instant)
    (link : Link σ) :
    (c.collect serve sources start stop link).1.Disciplined c sources start stop := by
  have hsources := c.sources_collect serve sources start stop link
  refine ⟨hsources, fun v hv => c.disciplined_of_mem serve hv, fun hdistinct v hv => ?_⟩
  refine filter_exchanges (fun w hw x hx => ?_) ?_ hv
  · exact ((c.disciplined_of_mem serve hw).addressed x hx).1
  · rw [← hsources, Collection.reports, List.map_map] at hdistinct
    exact hdistinct

/-! ### Cycles -/

/-- The cursor before a cycle: the one that the cycle before it has left, or the first one. -/
def cursorBefore (cursor : Cursor) (results : List CycleResult) : Nat → Cursor
  | 0 => cursor
  | k + 1 => (results[k]?.map (·.cursor)).getD cursor

/-- Each cycle is run once, with the cursor that is there before it, whatever the cycles before it
have made of the far end. -/
theorem Collector.exists_runCycle {sources : List NodeId} {cycles : List Cycle} {cursor : Cursor}
    {state : σ} {k : Nat} {result : CycleResult}
    (h : (c.runCycles serve sources cycles cursor state).1[k]? = some result) :
    ∃ cycle state', cycles[k]? = some cycle ∧ result = (c.runCycle serve sources cycle
      (cursorBefore cursor (c.runCycles serve sources cycles cursor state).1 k) state').1 := by
  induction cycles generalizing cursor state k with
  | nil => cases h
  | cons cycle cycles ih =>
    cases k with
    | zero =>
      cases h
      exact ⟨cycle, state, rfl, rfl⟩
    | succ k =>
      have hlater : (c.runCycles serve sources cycles
          (c.runCycle serve sources cycle cursor state).1.cursor
          (c.runCycle serve sources cycle cursor state).2).1[k]? = some result := h
      obtain ⟨cycle', state', hcycle, hresult⟩ := ih hlater
      refine ⟨cycle', state', hcycle, ?_⟩
      cases k with
      | zero => exact hresult
      | succ k =>
        -- There is a cycle before this one among the later ones.
        obtain ⟨earlier, hearlier⟩ : ∃ earlier, (c.runCycles serve sources cycles
            (c.runCycle serve sources cycle cursor state).1.cursor
            (c.runCycle serve sources cycle cursor state).2).1[k]? = some earlier := by
          have hlt := (List.getElem?_eq_some_iff.mp hlater).1
          exact ⟨_, List.getElem?_eq_getElem (Nat.lt_of_succ_lt hlt)⟩
        have hearlier' : (c.runCycles serve sources (cycle :: cycles) cursor state).1[k + 1]? =
            some earlier := hearlier
        rw [cursorBefore, hearlier] at hresult
        rw [cursorBefore, hearlier']
        exact hresult

/-- **Tokens are handed on, and nowhere else**, whatever the far end answers. In every collection,
in whichever state earlier ones have left the far end, and so in every one of any number of cycles,
the first call to a source carries no token, nor does the call after a stale reply, and every other
call carries the token that the call right before it, to the same source, has just brought in a good
reply. So a token goes to the source that it came from, in the collection that it came in; none is
empty, none is sent twice in a row, and after a stale reply none is sent but those issued since.
Every call goes out by the method that is set, with the ends of the window in their order, the least
severity that is set, and the mask of all optional fields. -/
theorem tokens_disciplined :
    (∀ (sources : List NodeId) (start stop : Instant) (link : Link σ),
      (c.collect serve sources start stop link).1.Disciplined c sources start stop) ∧
    ∀ (sources : List NodeId) (cycles : List Cycle) (cursor : Cursor) (state : σ) (k : Nat)
      (result : CycleResult), (c.runCycles serve sources cycles cursor state).1[k]? = some result →
      ∃ cycle, cycles[k]? = some cycle ∧
        let ends := cycle.span.ends
          (cursorBefore cursor (c.runCycles serve sources cycles cursor state).1 k)
        result.collection.Disciplined c sources ends.1 ends.2 := by
  refine ⟨c.disciplined_collect serve, fun sources cycles cursor state k result h => ?_⟩
  obtain ⟨cycle, state', hcycle, hresult⟩ := c.exists_runCycle serve h
  refine ⟨cycle, hcycle, ?_⟩
  rw [hresult]
  exact c.disciplined_collect serve sources _ _ _

end

/-- A cycle over the first instant. -/
def epochCycle : Cycle := ⟨.between .epoch .epoch, false, false⟩

theorem runCycle_forgetful {cursor : Cursor} {n : Nat} {run : Run Nat}
    (h : Fetches forgetful plainCollector ⟨.epoch, .epoch, 51, by decide⟩ .null 1000 (.fresh 1000)
      ⟨n, false⟩ run) :
    plainCollector.runCycle forgetful [.null] epochCycle cursor n =
      (⟨⟨[run.visit .null]⟩, cursor⟩, run.link.state) := by
  rw [(fetches_iff ..).mp h]
  rfl

/-- The forgetful far end gives out a token, finds it stale, gives out another one and breaks. The
first cycle sends the second token, which the call before has brought; the second cycle begins
without one. -/
theorem tokens_disciplined_forgetful :
    let results :=
      (plainCollector.runCycles forgetful [.null] [epochCycle, epochCycle] ⟨.epoch⟩ 0).1
    ∃ first second v w, results = [first, second] ∧
      v ∈ first.collection.visits ∧
      v.exchanges.map (·.request.token) = [none, some [0], none, some [2]] ∧
      (∃ x, v.exchanges[2]? = some x ∧ x.Issues [2]) ∧
      w ∈ second.collection.visits ∧ w.exchanges.length = 1 ∧
      ∀ x ∈ w.exchanges.head?, x.request.token = none := by
  obtain ⟨run, hrun, hlink, hsent⟩ : ∃ run,
      Fetches forgetful plainCollector ⟨.epoch, .epoch, 51, by decide⟩ .null 1000 (.fresh 1000)
        ⟨0, false⟩ run ∧ run.link.state = 4 ∧
      run.exchanges.map (·.request.token) = [none, some [0], none, some [2]] :=
    ⟨_,
      .round (.turn ⟨rfl, rfl⟩ rfl rfl (by decide) (by decide) (by decide)) <|
      .round (.startOver ⟨rfl, rfl⟩ rfl rfl) <|
      .round (.turn ⟨rfl, rfl⟩ rfl rfl (by decide) (by decide) (by decide)) <|
      .stop (.fail ⟨rfl, rfl⟩ rfl), rfl, rfl⟩
  obtain ⟨run', hrun', hlen⟩ : ∃ run',
      Fetches forgetful plainCollector ⟨.epoch, .epoch, 51, by decide⟩ .null 1000 (.fresh 1000)
        ⟨4, false⟩ run' ∧ run'.exchanges.length = 1 :=
    ⟨_, .stop (.fail ⟨rfl, rfl⟩ rfl), rfl⟩
  intro results
  have hresults : results =
      [⟨⟨[run.visit .null]⟩, ⟨.epoch⟩⟩, ⟨⟨[run'.visit .null]⟩, ⟨.epoch⟩⟩] := by
    simp only [results, Collector.runCycles, runCycle_forgetful hrun, hlink,
      runCycle_forgetful hrun']
  have hv : run.visit .null ∈ [run.visit .null] := List.mem_singleton.mpr rfl
  have hw : run'.visit .null ∈ [run'.visit .null] := List.mem_singleton.mpr rfl
  obtain ⟨_, -, hfirst⟩ := (tokens_disciplined forgetful plainCollector).2 [.null]
    [epochCycle, epochCycle] ⟨.epoch⟩ 0 0 _ (congrArg (·[0]?) hresults)
  obtain ⟨_, -, hsecond⟩ := (tokens_disciplined forgetful plainCollector).2 [.null]
    [epochCycle, epochCycle] ⟨.epoch⟩ 0 1 _ (congrArg (·[1]?) hresults)
  obtain ⟨y, hy, htoken⟩ : ∃ y, run.exchanges[3]? = some y ∧ y.request.token = some [2] := by
    rw [← Option.map_eq_some_iff, ← List.getElem?_map, hsent]
    rfl
  obtain ⟨m, x, hm, hx, hissues, -⟩ := (hfirst.visits _ hv).issued 3 y [2] hy htoken
  obtain rfl : m = 2 := by omega
  exact ⟨_, _, _, _, hresults, hv, hsent, ⟨x, hx, hissues⟩, hw, hlen, (hsecond.visits _ hw).first⟩

end LogHistory
