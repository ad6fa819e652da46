import LogHistory.Proofs.Quota
import LogHistory.Proofs.Sites

/-!
# Pages of an honest log object

A log object that holds `n` matching entries is asked for pages of at most `cap` records until
`quota` of them have come. If it serves every call, the calls walk once through the entries: after
`k` pages the token points to entry `k * cap`, the records are those of the entries before it, and
`quota - k * cap` of the quota remains (`Fetch.atPage`). A further page follows as long as both
entries and quota are left, so there are `pageCount` of them. Boundaries need no special care: an
object with no matching entry is called once, and a page that ends with the last entry, or with the
quota, is the last one although it may have a token.

## What is proved

* `Round.atPage`, `Stop.atPage` — a page that is served leads to the next, or is the last one.
* `Fetches.of_pages` — so any number of pages can come before what follows.
* `LogObject.exists_fullRun` — an object that serves its next calls is fetched to the end.
* `paging_complete` — what a collection brings from such an object of a site.

The places of pages never reach `2 ^ 32`, the bound of a token, since no quota does; so the number
of entries needs no bound.
-/

namespace LogHistory

/-! ### How many pages there are -/

/-- How many pages of at most `cap` records it takes to bring `quota` out of `count` records. -/
def pageCount (cap quota count : Nat) : Nat := max 1 ((min count quota + cap - 1) / cap)

theorem pageCount_pos (cap quota count : Nat) : 0 < pageCount cap quota count :=
  Nat.le_max_left ..

/-- A page follows if it is the first one, or records and quota are left before it. -/
theorem lt_pageCount_iff {cap : Nat} (hcap : 1 ≤ cap) (quota count n : Nat) :
    n < pageCount cap quota count ↔ n = 0 ∨ n * cap < min count quota := by
  have hdiv : n < (min count quota + cap - 1) / cap ↔ n * cap < min count quota := by
    rw [← Nat.succ_le_iff, Nat.le_div_iff_mul_le hcap, Nat.succ_mul]
    omega
  rw [pageCount, lt_max_iff, hdiv, Nat.lt_one_iff]

theorem pageCount_le {cap quota : Nat} (hcap : 1 ≤ cap) (hquota : 1 ≤ quota) (count : Nat) :
    pageCount cap quota count ≤ quota := by
  refine Nat.le_of_not_lt fun hlt => ?_
  rcases (lt_pageCount_iff hcap quota count quota).mp hlt with hzero | hmul
  · omega
  · have hle := Nat.le_mul_of_pos_right quota hcap
    omega

theorem Settings.quotaFor_lt (s : Settings) (n : Nat) : s.quotaFor n < UInt32.size := by
  have hdiv := Nat.div_le_self s.maxLogRecords.toNat (min (max n 1) (UInt32.size - 1))
  have htotal := s.maxLogRecords.toNat_lt_size
  have hone : 1 < UInt32.size := by decide
  unfold quotaFor
  omega

/-! ### Served calls -/

namespace History

/-- All that an object gives out of a window. -/
def payloads (entries : List Entry) (w : Window) : List Payload :=
  (select entries w).map Entry.payload

theorem place_token {n : Nat} (h : n < UInt32.size) : place (some (token n)) = n := by
  have hlen : (token n).length = 4 := LittleEndian.length_encode 4 n
  simp only [place, hlen, Nat.lt_irrefl, if_false]
  rw [List.take_of_length_le (Nat.le_of_eq hlen), token, LittleEndian.decode_encode]
  exact Nat.mod_eq_of_lt h

/-- **A served call brings a page**: what is left from the place of its token, cut to what it asks
for, with a token if that leaves something. -/
theorem page_serve (entries : List Entry) {request : Request} (hpos : 0 < request.maxRecords) :
    (serve entries request).status = .good ∧
    (serve entries request).page =
      let rest := (payloads entries request.window).drop (place request.token)
      .ok ⟨rest.take request.maxRecords,
        if request.maxRecords < rest.length then
          some (token (place request.token + request.maxRecords))
        else none⟩ := by
  unfold serve payloads
  simp only [hpos, true_and]
  by_cases h : request.maxRecords <
      (((select entries request.window).map Entry.payload).drop (place request.token)).length
  · simp only [if_pos h]
    exact ⟨trivial, rfl⟩
  · simp only [if_neg h, List.take_of_length_le (Nat.le_of_not_lt h)]
    exact ⟨trivial, rfl⟩

end History

/-- The call, served by an object with these entries. -/
def Request.served (request : Request) (entries : List Entry) : Exchange :=
  ⟨request, .ok (History.serve entries request)⟩

theorem Request.verdict_served {request : Request} (hpos : 0 < request.maxRecords)
    (entries : List Entry) : (request.served entries).verdict =
      let place := History.place request.token
      let rest := (History.payloads entries request.window).drop place
      .page ⟨rest.take request.maxRecords,
        if request.maxRecords < rest.length then some (History.token (place + request.maxRecords))
        else none⟩ := by
  obtain ⟨hstatus, hpage⟩ := History.page_serve entries hpos
  have hi : StatusCode.good ≠ .invalidArgument := by decide
  have hs : StatusCode.good ≠ .staleToken := by decide
  have hg : ¬ (!StatusCode.good.isGood) = true := by decide
  simp only [Request.served, Exchange.verdict, hstatus, hpage, if_neg hi, if_neg hs, if_neg hg]

/-! ### Where a source stands -/

namespace Fetch

/-- Where a source stands that started at `first` and brought `n` full pages of these payloads. -/
def atPage (first : Fetch) (c : Collector) (payloads : List Payload) (n : Nat) : Fetch where
  records := c.decoders.accepted (payloads.take (n * c.cap))
  skipped := c.decoders.rejected (payloads.take (n * c.cap))
  remaining := first.remaining - n * c.cap
  token := if n = 0 then none else some (History.token (n * c.cap))
  restarted := first.restarted
  calls := first.calls + UInt32.ofNat n

variable (first : Fetch) (c : Collector) (payloads : List Payload)

theorem atPage_fresh (quota : Nat) : (fresh quota).atPage c payloads 0 = fresh quota := by
  simp [atPage, fresh, DecoderTable.accepted, DecoderTable.rejected]

theorem atPage_restart (f : Fetch) (quota : Nat) :
    (f.restart quota).atPage c payloads 0 = f.restart quota := by
  simp [atPage, restart, DecoderTable.accepted, DecoderTable.rejected]

/-- The token points to the first payload that has not come. -/
theorem place_atPage {n : Nat} (h : n * c.cap < UInt32.size) :
    History.place (first.atPage c payloads n).token = n * c.cap := by
  unfold atPage
  cases n with
  | zero => simp [History.place]
  | succ n => exact History.place_token h

theorem take_atPage (n asked : Nat) :
    (first.atPage c payloads n).count.take c.decoders asked
        ((payloads.drop (n * c.cap)).take asked) =
      { records := c.decoders.accepted (payloads.take (n * c.cap + asked))
        skipped := c.decoders.rejected (payloads.take (n * c.cap + asked))
        remaining := first.remaining - n * c.cap - min asked (payloads.length - n * c.cap)
        token := (first.atPage c payloads n).token
        restarted := first.restarted
        calls := first.calls + UInt32.ofNat (n + 1) } := by
  have hcalls : first.calls + UInt32.ofNat n + 1 = first.calls + UInt32.ofNat (n + 1) := by
    rw [UInt32.ofNat_add, ← UInt32.add_assoc]
    rfl
  simp only [take, count, atPage, List.take_take, Nat.min_self, List.take_add,
    DecoderTable.accepted_append, DecoderTable.rejected_append, List.length_take,
    List.length_drop, hcalls]

end Fetch

/-! ### Pages that are served -/

/-- The call for page `n`, from 0, served by an object with these entries. -/
def pageCall (c : Collector) (window : Window) (source : NodeId) (first : Fetch)
    (entries : List Entry) (n : Nat) : Exchange :=
  ((first.atPage c (History.payloads entries window) n).request c window source).served entries

section Pages

variable {σ : Type} {serve : Service σ} {c : Collector} {window : Window} {source : NodeId}
  {quota : Nat} {first : Fetch} {entries : List Entry} {payloads : List Payload} {n : Nat}

theorem maxRecords_pageCall :
    (pageCall c window source first entries n).request.maxRecords =
      min c.cap (first.remaining - n * c.cap) := Nat.min_comm ..

variable (source first) in
theorem verdict_pageCall (hpayloads : History.payloads entries window = payloads)
    (hplace : n * c.cap < UInt32.size) (hleft : n * c.cap < first.remaining) :
    (pageCall c window source first entries n).verdict =
      let asked := (first.atPage c payloads n).ask c.cap
      .page ⟨(payloads.drop (n * c.cap)).take asked,
        if asked < payloads.length - n * c.cap then some (History.token (n * c.cap + asked))
        else none⟩ := by
  subst hpayloads
  have hat : History.place ((first.atPage c (History.payloads entries window) n).request c window
      source).token = n * c.cap := first.place_atPage c (History.payloads entries window) hplace
  have hpos : 0 < (pageCall c window source first entries n).request.maxRecords := by
    have hcap := c.cap_pos
    rw [maxRecords_pageCall]
    omega
  refine (Request.verdict_served hpos entries).trans ?_
  simp only [pageCall, Request.served, hat, List.length_drop]
  rfl

theorem mul_cap_lt_size {count : Nat} (hsize : quota < UInt32.size)
    (hn : n < pageCount c.cap quota count) : n * c.cap < UInt32.size := by
  rcases (lt_pageCount_iff c.cap_pos ..).mp hn with rfl | hlt
  · rw [Nat.zero_mul]
    decide
  · omega

/-- **A page before the last leads to the next one.** -/
theorem Round.atPage (hpayloads : History.payloads entries window = payloads)
    (hsize : quota < UInt32.size) (hfirst : first.remaining = quota)
    (hn : n + 1 < pageCount c.cap quota payloads.length) {link link' : Link σ}
    (h : Calls serve c window source (first.atPage c payloads n) link
      (pageCall c window source first entries n) link') :
    Round serve c window source quota (pageCall c window source first entries n)
      (first.atPage c payloads n) link (first.atPage c payloads (n + 1)) link' := by
  have hcap := c.cap_pos
  have hplace := mul_cap_lt_size hsize (Nat.lt_of_succ_lt hn)
  have hleft : n * c.cap + c.cap < min payloads.length quota := by
    rw [← Nat.succ_mul]
    exact ((lt_pageCount_iff hcap ..).mp hn).resolve_left (Nat.succ_ne_zero n)
  have hask : (first.atPage c payloads n).ask c.cap = c.cap := by
    simp only [Fetch.ask, Fetch.atPage, hfirst]
    omega
  have hverdict := verdict_pageCall source first hpayloads hplace (by omega)
  simp only [hask] at hverdict
  rw [if_pos (by omega)] at hverdict
  have htake := first.take_atPage c payloads n c.cap
  have hnext : first.atPage c payloads (n + 1) =
      { (first.atPage c payloads n).count.take c.decoders
          ((first.atPage c payloads n).ask c.cap) ((payloads.drop (n * c.cap)).take c.cap) with
        token := some (History.token (n * c.cap + c.cap)) } := by
    rw [hask, htake]
    simp only [Fetch.atPage, Nat.succ_mul, Nat.succ_ne_zero, if_false, Fetch.mk.injEq, true_and,
      and_true]
    omega
  rw [hnext]
  refine .turn h hverdict rfl ?_ ?_ ?_
  · simp only [hask, List.length_take, List.length_drop]
    omega
  · -- The place goes up, so the token is not the one that was sent.
    intro htoken
    have hsame := congrArg History.place htoken
    rw [History.place_token (by omega), first.place_atPage c payloads hplace] at hsame
    omega
  · rw [hask, htake]
    simp only [hfirst]
    omega

/-- A run that brings these payloads and is done. -/
structure Run.Brings (run : Run σ) (c : Collector) (payloads : List Payload) : Prop where
  /-- The source is done. -/
  done : run.failure = none
  /-- The payloads that can be decoded are its records. -/
  records : run.fetch.records = c.decoders.accepted payloads
  /-- The other ones are counted. -/
  skipped : run.fetch.skipped = c.decoders.rejected payloads

/-- **The last page ends the run** with all the payloads that the quota lets through. -/
theorem Stop.atPage (hpayloads : History.payloads entries window = payloads) (hquota : 0 < quota)
    (hsize : quota < UInt32.size) (hfirst : first.remaining = quota)
    (hn : n + 1 = pageCount c.cap quota payloads.length) {link link' : Link σ}
    (h : Calls serve c window source (first.atPage c payloads n) link
      (pageCall c window source first entries n) link') :
    ∃ run, Stop serve c window source (first.atPage c payloads n) link run ∧
      run.Brings c (payloads.take quota) ∧
      run.exchanges = [pageCall c window source first entries n] ∧ run.link = link' := by
  have hcap := c.cap_pos
  have hlt : n < pageCount c.cap quota payloads.length := by omega
  have hplace := mul_cap_lt_size hsize hlt
  have hbefore : n * c.cap < quota := by
    rcases (lt_pageCount_iff hcap ..).mp hlt with rfl | hlt
    · omega
    · omega
  have hafter : min payloads.length quota ≤ n * c.cap + c.cap := by
    rw [← Nat.succ_mul]
    refine Nat.le_of_not_lt fun hlt => ?_
    have := (lt_pageCount_iff hcap ..).mpr (.inr hlt)
    omega
  have hverdict := verdict_pageCall source first hpayloads hplace (by rwa [hfirst])
  have htake := first.take_atPage c payloads n
  have hask : (first.atPage c payloads n).ask c.cap = min (quota - n * c.cap) c.cap := by
    simp only [Fetch.ask, Fetch.atPage, hfirst]
  have hall : payloads.take (n * c.cap + (first.atPage c payloads n).ask c.cap) =
      payloads.take quota := by
    rw [List.take_eq_take_iff, hask]
    omega
  refine ⟨_, .last h hverdict ?_, ⟨rfl, ?_, ?_⟩, rfl, rfl⟩
  · -- If a token comes with the last page, then entries are left and the quota is used up.
    intro token htoken
    right; right
    simp only at htoken
    split_ifs at htoken with hmore
    rw [htake]
    simp only [hfirst]
    rw [hask] at hmore ⊢
    omega
  · rw [← hall]
    exact congrArg Fetch.records (htake _)
  · rw [← hall]
    exact congrArg Fetch.skipped (htake _)

end Pages

/-! ### Runs of one object -/

namespace LogObject

/-- The object after `n` calls. -/
def after (o : LogObject) (n : Nat) : LogObject := { o with script := o.script.drop n }

/-- What comes of call `n` of the object, from 0. -/
def step (o : LogObject) (n : Nat) : Step := o.script.getD n .plain

theorem answer_after (o : LogObject) (n : Nat) (request : Request) :
    (o.after n).answer request =
      (⟨(o.step n).delay, (o.step n).cancels,
        match (o.step n).action with
        | .serve => .ok (History.serve o.entries request)
        | .reply reply => .ok reply
        | .fail error => .error error⟩, o.after (n + 1)) := by
  have hstep : (o.after n).script.headD .plain = o.step n := by
    rw [step, after, List.headD_eq_head?_getD, List.head?_drop, List.getD_eq_getElem?_getD]
  have htail : { o.after n with script := (o.after n).script.tail } = o.after (n + 1) := by
    rw [after, after, List.tail_drop]
  rw [← hstep, ← htail]
  rfl

variable {c : Collector} {window : Window} {source : NodeId} {f : Fetch} {o : LogObject} {n : Nat}

theorem calls_of_plain (h : o.step n = .plain) :
    Calls LogObject.serve c window source f ⟨o.after n, false⟩
      ((f.request c window source).served o.entries) ⟨o.after (n + 1), false⟩ := by
  refine ⟨rfl, ?_⟩
  simp only [Service.call, LogObject.serve, answer_after, h]
  rfl

variable (c source) in
theorem calls_pageCall (first : Fetch) {payloads : List Payload} (m : Nat)
    (hpayloads : History.payloads o.entries window = payloads) (h : o.step n = .plain) :
    Calls LogObject.serve c window source (first.atPage c payloads m) ⟨o.after n, false⟩
      (pageCall c window source first o.entries m) ⟨o.after (n + 1), false⟩ := by
  subst hpayloads
  exact calls_of_plain h

end LogObject

variable {c : Collector} {window : Window} {source : NodeId} {quota : Nat} {first : Fetch}
  {o : LogObject} {payloads : List Payload} {n : Nat}

/-- **Pages before a run.** What follows `n` pages that are served, none of them the last, follows
them in a run from the first page. -/
theorem Fetches.of_pages (hpayloads : History.payloads o.entries window = payloads)
    (hsize : quota < UInt32.size) (hfirst : first.remaining = quota) {run : Run LogObject} :
    n < pageCount c.cap quota payloads.length → (∀ k < n, o.step k = .plain) →
    Fetches LogObject.serve c window source quota (first.atPage c payloads n) ⟨o.after n, false⟩
      run →
    ∃ run', Fetches LogObject.serve c window source quota (first.atPage c payloads 0) ⟨o, false⟩
        run' ∧ run'.fetch = run.fetch ∧ run'.failure = run.failure ∧
      run'.exchanges =
        (List.range n).map (pageCall c window source first o.entries) ++ run.exchanges ∧
      run'.link = run.link := by
  induction n generalizing run with
  | zero => intro _ _ h; exact ⟨run, h, rfl, rfl, rfl, rfl⟩
  | succ n ih =>
    intro hn hplain h
    have hcalls :=
      LogObject.calls_pageCall c source first n hpayloads (hplain n (Nat.lt_succ_self n))
    obtain ⟨run', hrun', hfetch, hfailure, hexchanges, hlink⟩ :=
      ih (Nat.lt_of_succ_lt hn) (fun k hk => hplain k (Nat.lt_succ_of_lt hk))
        (.round (.atPage hpayloads hsize hfirst hn hcalls) h)
    refine ⟨run', hrun', hfetch, hfailure, ?_, hlink⟩
    rw [hexchanges, List.range_succ, List.map_append, List.append_assoc]
    rfl

variable (c source first o) in
/-- **An object that serves its calls is fetched to the end.** -/
theorem LogObject.exists_fullRun (hpayloads : History.payloads o.entries window = payloads)
    (hquota : 0 < quota) (hsize : quota < UInt32.size) (hfirst : first.remaining = quota)
    (hplain : ∀ k, o.step k = .plain) :
    ∃ run, Fetches LogObject.serve c window source quota (first.atPage c payloads 0) ⟨o, false⟩
        run ∧
      run.Brings c (payloads.take quota) ∧
      run.exchanges = (List.range (pageCount c.cap quota payloads.length)).map
        (pageCall c window source first o.entries) ∧
      run.link = ⟨o.after (pageCount c.cap quota payloads.length), false⟩ := by
  obtain ⟨n, hn⟩ := Nat.exists_eq_add_of_lt (pageCount_pos c.cap quota payloads.length)
  rw [Nat.zero_add] at hn
  have hcalls := calls_pageCall c source first n hpayloads (hplain n)
  obtain ⟨run, hstop, hbrings, hexchanges, hlink⟩ :=
    Stop.atPage hpayloads hquota hsize hfirst hn.symm hcalls
  obtain ⟨run', hrun', hfetch, hfailure, hexchanges', hlink'⟩ :=
    Fetches.of_pages hpayloads hsize hfirst (by omega) (fun k _ => hplain k) (.stop hstop)
  rw [hn]
  refine ⟨run', hrun', ⟨hfailure.trans hbrings.done, ?_, ?_⟩, ?_, hlink'.trans hlink⟩
  · rw [hfetch, hbrings.records]
  · rw [hfetch, hbrings.skipped]
  · rw [hexchanges', hexchanges, List.range_succ, List.map_append]
    rfl

/-! ### Collections -/

/-- Over the link an object with these entries, and without a script, is there for the source, and
no call will cancel the collection. -/
structure Site.Ready (source : NodeId) (entries : List Entry) (link : Link Site) : Prop where
  /-- The collection is not cancelled. -/
  live : link.cancelled = false
  /-- No object cancels it. -/
  quiet : ∀ id o, link.state.object? id = some o → ∀ step ∈ o.script, step.cancels = false
  /-- The object is there. -/
  object : link.state.object? source = some ⟨source, entries, []⟩

theorem Site.Ready.call {entries : List Entry} {link : Link Site} (h : Ready source entries link)
    (limit : Duration) (request : Request) :
    Ready source entries (Site.serve.call limit request link).2 := by
  obtain ⟨hlive, hquiet, hobject⟩ := h
  refine ⟨?_, ?_, ?_⟩
  · simp only [Service.call, hlive, Bool.false_or, answer_serve]
    cases ho : link.state.object? request.object with
    | none => rfl
    | some o =>
      simp only [Option.map_some, Option.getD_some, LogObject.answer]
      cases hscript : o.script with
      | nil => rfl
      | cons step steps => exact hquiet _ o ho step (hscript ▸ List.mem_cons_self)
  · intro id o ho step hstep
    simp only [Service.call, object?_serve] at ho
    split_ifs at ho with hid
    · obtain ⟨o', ho', rfl⟩ := Option.map_eq_some_iff.mp ho
      exact hquiet id o' ho' step (List.mem_of_mem_tail hstep)
    · exact hquiet id o ho step hstep
  · simp only [Service.call, object?_serve, hobject]
    split_ifs
    · rfl
    · rfl

/-- A visit that brings these payloads page by page, as far as the quota goes. -/
structure Visit.IsPaged (v : Visit) (c : Collector) (quota : Nat) (payloads : List Payload) :
    Prop where
  /-- The source is done. -/
  done : v.report.failure = none
  /-- There are as many calls as it takes, and at least one. -/
  calls : v.exchanges.length = max 1 ((min payloads.length quota + c.cap - 1) / c.cap)
  /-- All calls are reported. -/
  reported : v.report.calls.toNat = v.exchanges.length
  /-- Each call asks for what one call may bring, or for what is left of the quota. -/
  asked : ∀ (n : Nat) (x : Exchange), v.exchanges[n]? = some x →
    x.request.maxRecords = min c.cap (quota - n * c.cap)
  /-- The records are those in the first payloads, in their order. -/
  records : v.records = c.decoders.accepted (payloads.take (min payloads.length quota))
  /-- All records are reported. -/
  counted : v.report.records = v.records.length
  /-- The other payloads are counted as skipped. -/
  skipped : v.report.skipped = min payloads.length quota - v.records.length

variable (c) in
/-- **An object that serves every call is visited page by page.** -/
theorem Site.Ready.visit_isPaged {entries : List Entry} {link : Link Site}
    (h : Site.Ready source entries link) (hquota : 1 ≤ quota) (hsize : quota < UInt32.size)
    (hpayloads : History.payloads entries window = payloads) :
    (c.visit Site.serve (.ok window) quota source link).1.IsPaged c quota payloads := by
  obtain ⟨run, hrun, hbrings, hexchanges, -⟩ :=
    LogObject.exists_fullRun c source (.fresh quota) ⟨source, entries, []⟩ hpayloads hquota hsize
      rfl fun _ => rfl
  rw [Fetch.atPage_fresh] at hrun
  have hlink : Link.Alike (LogObject.IsAt source) ⟨⟨source, entries, []⟩, false⟩ link :=
    ⟨h.live.symm, h.object⟩
  rw [(LogObject.visit_eq hlink hrun).1]
  have hlen : run.exchanges.length = pageCount c.cap quota payloads.length := by
    rw [hexchanges, List.length_map, List.length_range]
  have htotal : payloads.take (min payloads.length quota) = payloads.take quota := by
    rw [List.take_eq_take_iff]
    omega
  refine ⟨hbrings.done, hlen, ?_, ?_, ?_, rfl, ?_⟩
  · have hle := pageCount_le c.cap_pos hquota payloads.length
    have hcalls : run.fetch.calls = UInt32.ofNat run.exchanges.length :=
      hrun.calls_eq.trans (UInt32.zero_add _)
    simp only [Run.visit, hlen, hcalls]
    exact UInt32.toNat_ofNat_of_lt' (Nat.lt_of_le_of_lt hle hsize)
  · intro n x hx
    simp only [Run.visit, hexchanges, List.getElem?_map, Option.map_eq_some_iff] at hx
    obtain ⟨n', hn', rfl⟩ := hx
    obtain ⟨hlt, rfl⟩ := List.getElem?_eq_some_iff.mp hn'
    rw [List.getElem_range]
    exact maxRecords_pageCall
  · rw [htotal]
    exact hbrings.records
  · have hsplit := c.decoders.length_accepted_add_rejected (payloads.take quota)
    rw [List.length_take, Nat.min_comm] at hsplit
    simp only [Run.visit, hbrings.records, hbrings.skipped]
    omega

/-- **An honest object is fetched completely, whatever the size of the pages.** Where a site has an
object that serves every call, and no call cancels the collection, each visit of that source is
done after as many calls as it takes to bring the matching entries, or the quota if there are more;
its records are those in the first of these entries, in their order and each once, and the others
are skipped. A collector that differs only in what one call may bring collects the same from it. -/
theorem paging_complete (c : Collector) (site : Site) (source : NodeId) (entries : List Entry)
    (sources : List NodeId) (start stop : Instant) (hwindow : start ≤ stop)
    (hobject : site.object? source = some ⟨source, entries, []⟩)
    (hquiet : ∀ o ∈ site, ∀ step ∈ o.script, step.cancels = false) (i : Nat)
    (hi : sources[i]? = some source) :
    ∃ v, (c.collect Site.serve sources start stop ⟨site, false⟩).1.visits[i]? = some v ∧
      v.report.source = source ∧
      v.IsPaged c (c.quotaOf sources)
        (History.payloads entries ⟨start, stop, c.floor, hwindow⟩) ∧
      ∀ c' : Collector, c'.decoders = c.decoders →
        { c'.settings with maxRecordsPerCall := c.settings.maxRecordsPerCall } = c.settings →
        ∃ v', (c'.collect Site.serve sources start stop ⟨site, false⟩).1.visits[i]? = some v' ∧
          v'.records = v.records ∧ v'.report.skipped = v.report.skipped := by
  have hready : Site.Ready source entries ⟨site, false⟩ :=
    ⟨rfl, fun id o ho => hquiet o (List.mem_of_find?_eq_some ho), hobject⟩
  -- What both collectors do at this place of the list.
  have hvisit : ∀ c' : Collector, ∃ v,
      (c'.collect Site.serve sources start stop ⟨site, false⟩).1.visits[i]? = some v ∧
      v.report.source = source ∧
      v.IsPaged c' (c'.quotaOf sources)
        (History.payloads entries ⟨start, stop, c'.floor, hwindow⟩) := by
    intro c'
    have hready' := c'.link_visitAll (.ok ⟨start, stop, c'.floor, hwindow⟩) (c'.quotaOf sources)
      (fun request link (_ : request.object ∈ sources.take i) h => h.call c'.timeout request) hready
    refine ⟨_, ?_, rfl, hready'.visit_isPaged c' (c'.settings.quotaFor_pos _)
      (c'.settings.quotaFor_lt _) rfl⟩
    have hwindow' : Window.make start stop c'.floor = .ok ⟨start, stop, c'.floor, hwindow⟩ :=
      dif_pos hwindow
    simp only [Collector.collect, hwindow', Collector.getElem?_visitAll, hi, Option.map_some]
    rfl
  obtain ⟨v, hv, hsource, hpaged⟩ := hvisit c
  refine ⟨v, hv, hsource, hpaged, fun c' hdecoders hsettings => ?_⟩
  obtain ⟨v', hv', -, hpaged'⟩ := hvisit c'
  have hfloor : c'.floor = c.floor := by
    have heq : c'.settings.floor = c.settings.floor := by
      rw [← hsettings]
      rfl
    rw [c'.floor_eq, c.floor_eq] at heq
    exact Except.ok.inj heq
  have hquota : c'.quotaOf sources = c.quotaOf sources := by
    unfold Collector.quotaOf
    rw [← hsettings]
    rfl
  have hrecords : v'.records = v.records := by
    rw [hpaged'.records, hpaged.records, hdecoders, hquota, hfloor]
  refine ⟨v', hv', hrecords, ?_⟩
  rw [hpaged'.skipped, hpaged.skipped, hrecords, hquota, hfloor]

/-- A collector that brings three records, two with a call. -/
def thriftyCollector : Collector :=
  ⟨{ Settings.default with maxRecordsPerCall := 2, maxLogRecords := 3 }, 51, .getRecordsMethod,
    .default, rfl, rfl⟩

/-- Five entries, the second without a body. -/
def fiveEntries : List Entry :=
  [⟨.make .epoch 500 "a", .structured (.make .epoch 500 "a")⟩,
    ⟨.make .epoch 500 "b", ⟨.logRecordType, .empty⟩⟩,
    ⟨.make .epoch 500 "c", .structured (.make .epoch 500 "c")⟩,
    ⟨.make .epoch 500 "d", .structured (.make .epoch 500 "d")⟩,
    ⟨.make .epoch 500 "e", .structured (.make .epoch 500 "e")⟩]

/-- Of five entries the thrifty collector takes three in two calls, the second of which asks for one
record, and skips the one without a body. -/
theorem paging_complete_fiveEntries :
    ∃ v, (thriftyCollector.collect Site.serve [.null] .epoch .epoch
        ⟨[⟨.null, fiveEntries, []⟩], false⟩).1.visits[0]? = some v ∧
      v.report.failure = none ∧ v.exchanges.length = 2 ∧
      (∀ x, v.exchanges[1]? = some x → x.request.maxRecords = 1) ∧
      v.records = [.ofLogRecord (.make .epoch 500 "a"), .ofLogRecord (.make .epoch 500 "c")] ∧
      v.report.skipped = 1 := by
  obtain ⟨v, hv, -, hpaged, -⟩ := paging_complete thriftyCollector [⟨.null, fiveEntries, []⟩] .null
    fiveEntries [.null] .epoch .epoch (by decide) rfl (by simp) 0 rfl
  have hrecords : v.records =
      [.ofLogRecord (.make .epoch 500 "a"), .ofLogRecord (.make .epoch 500 "c")] := hpaged.records
  refine ⟨v, hv, hpaged.done, hpaged.calls, hpaged.asked 1, hrecords, ?_⟩
  rw [hpaged.skipped, hrecords]
  rfl

end LogHistory
