import LogHistory.Collect.Collection
import Mathlib.Logic.Relation
import Mathlib.Tactic.SplitIfs

/-!
# The rounds of a fetch

Fetching a source is a loop without a counter: each round makes one call, and what comes of it
either leads to another round or ends the loop. This module says once what a round can do, so that
what holds of a whole run is proved by induction on its rounds.

## The model

* `Exchange.verdict` — what came of a call, whatever the state of the source: the token is stale, a
  page has come, or the source fails.
* `Round` — a round that another one follows. There are two kinds: a source is started over, or a
  page leads on.
* `Stop` — what the loop comes to in a round that ends it. There are four kinds.
* `Fetches` — rounds, and then one that ends the loop.

## What is proved

* `receive_eq` — the state after a call depends on the call only through its verdict.
* `fetches_iff`, `goesOn_iff` — the loop does these rounds and no others.
* `Fetches.exists_calls` — each call of a run is made where the loop has come to.
* `exists_fetches_of_mem` — each visit of a collection is such a run from a fresh state, or the
  source was not called at all because the window has no extent.

The far end is any function of the request and its own state, so nothing here is assumed of it.
-/

namespace LogHistory

/-- What came of a call, whatever the state of the source. -/
inductive Verdict where
  /-- The token is not, or no longer, valid. -/
  | stale
  /-- A page has come. -/
  | page (page : Page)
  /-- The source fails. -/
  | failure (error : Failure)

/-- What came of the call. -/
def Exchange.verdict (x : Exchange) : Verdict :=
  match x.outcome with
  | .error e => .failure e
  | .ok reply =>
    if reply.status = .invalidArgument then .failure .invalidArgument
    else if reply.status = .staleToken then .stale
    else if !reply.status.isGood then .failure (.badStatus reply.status)
    else match reply.page with
      | .error e => .failure e
      | .ok page => .page page

/-- **The state after a call depends on the call only through its verdict.** -/
theorem receive_eq (f : Fetch) (decoders : DecoderTable) (quota asked : Nat) (x : Exchange) :
    f.receive decoders quota asked x.outcome =
      match x.verdict with
      | .stale =>
        if f.restarted then .failed { f with records := [] } .staleToken
        else .again (f.restart quota)
      | .page page => f.receivePage decoders asked page
      | .failure e => .failed f e := by
  unfold Exchange.verdict Fetch.receive
  cases x.outcome with
  | error e => rfl
  | ok reply =>
    simp only [Fetch.receiveReply]
    by_cases hi : reply.status = .invalidArgument
    · simp only [if_pos hi]
    · by_cases hs : reply.status = .staleToken
      · simp only [if_neg hi, if_pos hs]
      · by_cases hg : (!reply.status.isGood) = true
        · simp only [if_neg hi, if_neg hs, if_pos hg]
        · simp only [if_neg hi, if_neg hs, if_neg hg]
          cases reply.page <;> rfl

/-- What the caller learns of a call is never that it should give the token up; that is for the
loop to say. -/
theorem Answer.settle_ne_staleToken (a : Answer) (limit : Duration) (cancelled : Bool) :
    a.settle limit cancelled ≠ .error .staleToken := by
  have hr : a.result.mapError Failure.transport ≠ .error Failure.staleToken := by
    cases a.result <;> simp [Except.mapError]
  unfold settle
  cases a.delay with
  | immediate => exact hr
  | after ms =>
    simp only
    split_ifs
    · simp
    · simp
    · exact hr
  | never => cases cancelled <;> simp

theorem Reply.page_ne_staleToken (reply : Reply) : reply.page ≠ .error .staleToken := by
  obtain ⟨status, outputs⟩ := reply
  match outputs with
  | [] | [_] | _ :: _ :: _ => simp [page]

theorem Exchange.verdict_ne {x : Exchange} (h : x.outcome ≠ .error .staleToken) :
    x.verdict ≠ .failure .staleToken := by
  unfold verdict
  cases ho : x.outcome with
  | error e =>
    intro he
    cases he
    exact h ho
  | ok reply =>
    simp only
    split_ifs
    · simp
    · simp
    · simp
    · cases hp : reply.page with
      | error e =>
        intro he
        cases he
        exact reply.page_ne_staleToken hp
      | ok page => simp

/-! ### Rounds -/

variable {σ : Type} (serve : Service σ) (c : Collector) (window : Window) (source : NodeId)
  (quota : Nat)

/-- The call `x` is made where the source stands. -/
structure Calls (f : Fetch) (link : Link σ) (x : Exchange) (link' : Link σ) : Prop where
  /-- The collection is not cancelled. -/
  live : link.cancelled = false
  /-- The call is the next one of the source. -/
  made : serve.call c.timeout (f.request c window source) link = (x, link')

/-- A page leads nowhere: it has no token, brings nothing, has the token that was just sent, or uses
up the quota. -/
def Fetch.IsLast (f : Fetch) (decoders : DecoderTable) (asked : Nat) (page : Page) : Prop :=
  ∀ token, page.next = some token →
    (page.payloads.take asked).length = 0 ∨ f.token = some token ∨
      (f.take decoders asked page.payloads).remaining = 0

/-- A round that another one follows. -/
inductive Round (x : Exchange) : Fetch → Link σ → Fetch → Link σ → Prop where
  /-- The token is stale for the first time: the source is started over. -/
  | startOver {f : Fetch} {link link' : Link σ} :
      Calls serve c window source f link x link' → x.verdict = .stale → f.restarted = false →
      Round x f link (f.count.restart quota) link'
  /-- A page leads on to the next. -/
  | turn {f : Fetch} {link link' : Link σ} {page : Page} {token : Bytes} :
      Calls serve c window source f link x link' → x.verdict = .page page →
      page.next = some token → (page.payloads.take (f.ask c.cap)).length ≠ 0 →
      f.token ≠ some token →
      (f.count.take c.decoders (f.ask c.cap) page.payloads).remaining ≠ 0 →
      Round x f link
        { f.count.take c.decoders (f.ask c.cap) page.payloads with token := some token } link'

/-- What the loop comes to in a round that ends it. -/
inductive Stop : Fetch → Link σ → Run σ → Prop where
  /-- The collection is cancelled; no call is made. -/
  | cancelled {f : Fetch} {link : Link σ} : link.cancelled = true →
      Stop f link ⟨f, some .cancelled, [], link⟩
  /-- The token is stale again: the source is given up and contributes nothing. -/
  | giveUp {f : Fetch} {link link' : Link σ} {x : Exchange} :
      Calls serve c window source f link x link' → x.verdict = .stale → f.restarted = true →
      Stop f link ⟨{ f.count with records := [] }, some .staleToken, [x], link'⟩
  /-- The last page. -/
  | last {f : Fetch} {link link' : Link σ} {x : Exchange} {page : Page} :
      Calls serve c window source f link x link' → x.verdict = .page page →
      f.count.IsLast c.decoders (f.ask c.cap) page →
      Stop f link ⟨f.count.take c.decoders (f.ask c.cap) page.payloads, none, [x], link'⟩
  /-- Any other failure. -/
  | fail {f : Fetch} {link link' : Link σ} {x : Exchange} {e : Failure} :
      Calls serve c window source f link x link' → x.verdict = .failure e →
      Stop f link ⟨f.count, some e, [x], link'⟩

/-- The run with a call before it. -/
def Run.after (run : Run σ) (x : Exchange) : Run σ :=
  { run with exchanges := x :: run.exchanges }

@[simp] theorem Run.exchanges_after (run : Run σ) (x : Exchange) :
    (run.after x).exchanges = x :: run.exchanges := rfl

@[simp] theorem Run.fetch_after (run : Run σ) (x : Exchange) :
    (run.after x).fetch = run.fetch := rfl

@[simp] theorem Run.failure_after (run : Run σ) (x : Exchange) :
    (run.after x).failure = run.failure := rfl

/-- A whole run: rounds, and then one that ends the loop. -/
inductive Fetches : Fetch → Link σ → Run σ → Prop where
  /-- The loop ends here. -/
  | stop {f : Fetch} {link : Link σ} {run : Run σ} :
      Stop serve c window source f link run → Fetches f link run
  /-- The loop goes on. -/
  | round {x : Exchange} {f f' : Fetch} {link link' : Link σ} {run : Run σ} :
      Round serve c window source quota x f link f' link' → Fetches f' link' run →
      Fetches f link (run.after x)

section

variable {serve c window source quota}

theorem Calls.request_eq {f : Fetch} {link link' : Link σ} {x : Exchange}
    (h : Calls serve c window source f link x link') : x.request = f.request c window source := by
  have hx := congrArg (fun p => p.1.request) h.made
  exact hx.symm

theorem Calls.verdict_ne {f : Fetch} {link link' : Link σ} {x : Exchange}
    (h : Calls serve c window source f link x link') : x.verdict ≠ .failure .staleToken := by
  have hx := congrArg (fun p => p.1.outcome) h.made
  exact Exchange.verdict_ne fun ho => Answer.settle_ne_staleToken _ _ _ (hx.trans ho)

theorem receivePage_of_isLast {f : Fetch} {decoders : DecoderTable} {asked : Nat} {page : Page}
    (h : f.IsLast decoders asked page) :
    f.receivePage decoders asked page = .done (f.take decoders asked page.payloads) := by
  unfold Fetch.receivePage
  cases hnext : page.next with
  | none => rfl
  | some token => exact if_pos (h token hnext)

theorem receivePage_of_next {f : Fetch} {decoders : DecoderTable} {asked : Nat} {page : Page}
    {token : Bytes} (hnext : page.next = some token) (hlen : (page.payloads.take asked).length ≠ 0)
    (htoken : f.token ≠ some token)
    (hremaining : (f.take decoders asked page.payloads).remaining ≠ 0) :
    f.receivePage decoders asked page =
      .again { f.take decoders asked page.payloads with token := some token } := by
  unfold Fetch.receivePage
  simp only [hnext]
  exact if_neg (by simp only [not_or]; exact ⟨hlen, htoken, hremaining⟩)

theorem isLast_or_next (f : Fetch) (decoders : DecoderTable) (asked : Nat) (page : Page) :
    f.IsLast decoders asked page ∨
    ∃ token, page.next = some token ∧ (page.payloads.take asked).length ≠ 0 ∧
      f.token ≠ some token ∧ (f.take decoders asked page.payloads).remaining ≠ 0 := by
  by_cases h : f.IsLast decoders asked page
  · exact .inl h
  · simp only [Fetch.IsLast, Classical.not_forall, not_or] at h
    obtain ⟨token, hnext, hlen, htoken, hremaining⟩ := h
    exact .inr ⟨token, hnext, hlen, htoken, hremaining⟩

variable (quota) in
/-- **What follows a call**: a round that leads on, or one that ends the loop. -/
theorem Calls.leads {f : Fetch} {link link' : Link σ} {x : Exchange}
    (h : Calls serve c window source f link x link') :
    match f.count.receive c.decoders quota (f.ask c.cap) x.outcome with
    | .again f' => Round serve c window source quota x f link f' link'
    | .done f' => Stop serve c window source f link ⟨f', none, [x], link'⟩
    | .failed f' e => Stop serve c window source f link ⟨f', some e, [x], link'⟩ := by
  rw [receive_eq]
  cases hv : x.verdict with
  | stale =>
    cases hf : f.restarted with
    | true =>
      have hf' : f.count.restarted = true := hf
      simp only [if_pos hf']
      exact .giveUp h hv hf
    | false =>
      have hf' : ¬ f.count.restarted = true := by simp [Fetch.count, hf]
      simp only [if_neg hf']
      exact .startOver h hv hf
  | page page =>
    rcases isLast_or_next f.count c.decoders (f.ask c.cap) page with
      hlast | ⟨token, hnext, hlen, htoken, hremaining⟩
    · simp only [receivePage_of_isLast hlast]
      exact .last h hv hlast
    · simp only [receivePage_of_next hnext hlen htoken hremaining]
      exact .turn h hv hnext hlen htoken hremaining
  | failure e => exact .fail h hv

theorem Calls.fetchFrom_eq {f : Fetch} {link link' : Link σ} {x : Exchange}
    (h : Calls serve c window source f link x link') :
    fetchFrom serve c window source quota f link =
      match f.count.receive c.decoders quota (f.ask c.cap) x.outcome with
      | .again f' => (fetchFrom serve c window source quota f' link').after x
      | .done f' => ⟨f', none, [x], link'⟩
      | .failed f' e => ⟨f', some e, [x], link'⟩ := by
  obtain ⟨hlive, hmade⟩ := h
  rw [fetchFrom, if_neg (by simp [hlive])]
  simp only [hmade]
  split
  all_goals
    next heq =>
      rw [hmade] at heq
      simp only [heq, Run.after]

theorem Round.receive_again {x : Exchange} {f f' : Fetch} {link link' : Link σ}
    (h : Round serve c window source quota x f link f' link') :
    Calls serve c window source f link x link' ∧
      f.count.receive c.decoders quota (f.ask c.cap) x.outcome = .again f' := by
  rw [receive_eq]
  cases h with
  | startOver hcalls hv hf =>
    have hf' : ¬ f.count.restarted = true := by simp [Fetch.count, hf]
    exact ⟨hcalls, by simp only [hv, if_neg hf']⟩
  | turn hcalls hv hnext hlen htoken hremaining =>
    have htoken' : f.count.token ≠ some _ := htoken
    exact ⟨hcalls, by simp only [hv, receivePage_of_next hnext hlen htoken' hremaining]⟩

/-- The loop goes round as `Round` says. -/
theorem Round.fetchFrom_eq {x : Exchange} {f f' : Fetch} {link link' : Link σ}
    (h : Round serve c window source quota x f link f' link') :
    fetchFrom serve c window source quota f link =
      (fetchFrom serve c window source quota f' link').after x := by
  obtain ⟨hcalls, hr⟩ := h.receive_again
  rw [hcalls.fetchFrom_eq, hr]

/-- The loop ends as `Stop` says. -/
theorem Stop.fetchFrom_eq {f : Fetch} {link : Link σ} {run : Run σ}
    (h : Stop serve c window source f link run) :
    fetchFrom serve c window source quota f link = run := by
  cases h with
  | cancelled hc => rw [fetchFrom, if_pos hc]
  | giveUp hcalls hv hf =>
    have hf' : f.count.restarted = true := hf
    rw [hcalls.fetchFrom_eq, receive_eq, hv]
    simp only [if_pos hf']
  | last hcalls hv hlast =>
    rw [hcalls.fetchFrom_eq, receive_eq, hv]
    simp only [receivePage_of_isLast hlast]
  | fail hcalls hv => rw [hcalls.fetchFrom_eq, receive_eq, hv]

variable (serve c window source quota) in
/-- The loop goes on: a call is made and another one follows. -/
def GoesOn (s s' : Fetch × Link σ) : Prop :=
  ∃ x, Round serve c window source quota x s.1 s.2 s'.1 s'.2

/-- **The loop goes on where it calls itself**: the collection is not cancelled, and the outcome of
the next call asks for another. -/
theorem goesOn_iff {f f' : Fetch} {link link' : Link σ} :
    GoesOn serve c window source quota (f, link) (f', link') ↔
      link.cancelled = false ∧
      ∃ x, serve.call c.timeout (f.request c window source) link = (x, link') ∧
        f.count.receive c.decoders quota (f.ask c.cap) x.outcome = .again f' := by
  constructor
  · rintro ⟨x, hround⟩
    obtain ⟨hcalls, hr⟩ := hround.receive_again
    exact ⟨hcalls.live, x, hcalls.made, hr⟩
  · rintro ⟨hlive, x, hmade, hr⟩
    have hround := Calls.leads quota ⟨hlive, hmade⟩
    rw [hr] at hround
    exact ⟨x, hround⟩

variable (serve c window source quota)

theorem fetchFrom_fetches (f : Fetch) (link : Link σ) :
    Fetches serve c window source quota f link
      (fetchFrom serve c window source quota f link) := by
  induction f, link using fetchFrom.induct serve c window source quota with
  | case1 f link hc =>
    rw [fetchFrom, if_pos hc]
    exact .stop (.cancelled hc)
  | case2 f link hc x link' hmade f' hr ih =>
    have hcalls : Calls serve c window source f link x link' := ⟨by simpa using hc, hmade⟩
    have hround := hcalls.leads quota
    rw [hr] at hround
    rw [hround.fetchFrom_eq]
    exact .round hround ih
  | case3 f link hc x link' hmade f' hr =>
    have hcalls : Calls serve c window source f link x link' := ⟨by simpa using hc, hmade⟩
    have hstop := hcalls.leads quota
    rw [hr] at hstop
    rw [hstop.fetchFrom_eq]
    exact .stop hstop
  | case4 f link hc x link' hmade f' e hr =>
    have hcalls : Calls serve c window source f link x link' := ⟨by simpa using hc, hmade⟩
    have hstop := hcalls.leads quota
    rw [hr] at hstop
    rw [hstop.fetchFrom_eq]
    exact .stop hstop

/-- **The loop does these rounds and no others.** -/
theorem fetches_iff (f : Fetch) (link : Link σ) (run : Run σ) :
    Fetches serve c window source quota f link run ↔
      run = fetchFrom serve c window source quota f link := by
  constructor
  · intro h
    induction h with
    | stop h => exact h.fetchFrom_eq.symm
    | round h _ ih => rw [h.fetchFrom_eq, ← ih]
  · rintro rfl
    exact fetchFrom_fetches ..

end

/-! ### Where a loop comes to -/

section

variable {serve c window source quota}

theorem Fetches.live {f : Fetch} {link : Link σ} {run : Run σ}
    (h : Fetches serve c window source quota f link run) (hlive : run.link.cancelled = false) :
    link.cancelled = false := by
  cases h with
  | stop h =>
    cases h with
    | cancelled => exact hlive
    | giveUp hcalls | last hcalls | fail hcalls => exact hcalls.live
  | round h _ => exact h.receive_again.1.live

/-- The calls by which a loop comes somewhere stand before those that follow. -/
theorem exists_fetches_of_reached {s s' : Fetch × Link σ}
    (h : Relation.ReflTransGen (GoesOn serve c window source quota) s s') {run : Run σ}
    (hrun : Fetches serve c window source quota s'.1 s'.2 run) :
    ∃ xs, Fetches serve c window source quota s.1 s.2
      { run with exchanges := xs ++ run.exchanges } := by
  induction h using Relation.ReflTransGen.head_induction_on with
  | refl => exact ⟨[], hrun⟩
  | head hround _ ih =>
    obtain ⟨x, hround⟩ := hround
    obtain ⟨xs, hrest⟩ := ih
    exact ⟨x :: xs, .round hround hrest⟩

/-- **Every call of a run is made where the loop has come to.** -/
theorem Fetches.exists_calls {f : Fetch} {link : Link σ} {run : Run σ}
    (h : Fetches serve c window source quota f link run) {x : Exchange} (hx : x ∈ run.exchanges) :
    ∃ f' here link',
      Relation.ReflTransGen (GoesOn serve c window source quota) (f, link) (f', here) ∧
      Calls serve c window source f' here x link' := by
  induction h with
  | stop h =>
    cases h with
    | cancelled => cases hx
    | giveUp hcalls | last hcalls | fail hcalls =>
      obtain rfl := List.mem_singleton.mp hx
      exact ⟨_, _, _, .refl, hcalls⟩
  | round h _ ih =>
    rcases List.mem_cons.mp hx with rfl | hx
    · exact ⟨_, _, _, .refl, h.receive_again.1⟩
    · obtain ⟨f', here, link', hreached, hcalls⟩ := ih hx
      exact ⟨f', here, link', .head ⟨_, h⟩ hreached, hcalls⟩

end

/-! ### Visits -/

namespace Collector

variable {serve c}

/-- The sources are visited in their order, each once. -/
theorem sources_visitAll (made : Except InvalidWindow Window) (sources : List NodeId) :
    ∀ link : Link σ,
      (c.visitAll serve made quota sources link).1.map (·.report.source) = sources := by
  induction sources with
  | nil => intro link; rfl
  | cons source sources ih =>
    intro link
    simp only [visitAll, List.map_cons, ih]
    cases made <;> rfl

variable {window source quota} in
theorem visit_eq_of_fetches {link : Link σ} {run : Run σ}
    (h : Fetches serve c window source quota (.fresh quota) link run) :
    c.visit serve (.ok window) quota source link = (run.visit source, run.link) := by
  rw [(fetches_iff ..).mp h]
  rfl

theorem exists_visit_of_mem {made : Except InvalidWindow Window} {sources : List NodeId}
    {v : Visit} : ∀ {link : Link σ}, v ∈ (c.visitAll serve made quota sources link).1 →
      ∃ source ∈ sources, ∃ link', v = (c.visit serve made quota source link').1 := by
  induction sources with
  | nil => intro link h; cases h
  | cons source sources ih =>
    intro link h
    simp only [visitAll, List.mem_cons] at h
    rcases h with rfl | h
    · exact ⟨source, List.mem_cons_self, link, rfl⟩
    · obtain ⟨source', hmem, link', rfl⟩ := ih h
      exact ⟨source', List.mem_cons_of_mem _ hmem, link', rfl⟩

/-- **A visit of a collection** is a run from a fresh state, or the source was not called because
the window has no extent. -/
theorem exists_fetches_of_mem {sources : List NodeId} {start stop : Instant} {link : Link σ}
    {v : Visit} (h : v ∈ (c.collect serve sources start stop link).1.visits) :
    (∃ source, v = .refused source) ∨
    ∃ window source link' run, Window.make start stop c.floor = .ok window ∧
      Fetches serve c window source (c.settings.quotaFor sources.length)
        (.fresh (c.settings.quotaFor sources.length)) link' run ∧ v = run.visit source := by
  obtain ⟨source, -, link', rfl⟩ := exists_visit_of_mem _ h
  cases hw : Window.make start stop c.floor with
  | error e => exact .inl ⟨source, rfl⟩
  | ok window => exact .inr ⟨window, source, link', _, rfl, fetchFrom_fetches .., rfl⟩

end Collector

end LogHistory
