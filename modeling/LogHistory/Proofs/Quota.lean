import LogHistory.Proofs.Contribution
import Mathlib.Algebra.Group.Action.Defs
import Mathlib.Algebra.Order.BigOperators.Group.List
import Mathlib.Algebra.Order.Group.Nat
import Mathlib.Logic.Relation

/-!
# The quota of a source

The loop of a fetch has no counter, and the far end may answer as it likes: with tokens that never
end or go in a circle, with empty pages, with more than was asked for, with stale tokens at any
time. What bounds it is the quota of the source.

## The invariant

Whenever a call is made, the records, the payloads that were skipped and what remains of the quota
add up to the quota, and something remains (`Fetch.Within`). So no call asks for nothing, which a
log object would take for no bound at all, and a page that leads to another one uses something up.
What the source may still use up, the whole quota again included if it can still start over, is its
`Fetch.credit`; every round but the last lowers it.

## What is proved

* `Round.within` — a round keeps the invariant and lowers the credit. So a collection ends, and a
  source of quota `q` is called at most `2 * q` times.
* `within_of_reachable` — the invariant holds wherever a source is called. So no call asks for too
  much or for nothing, and neither a source nor a collection brings more than it may.

All of this holds of any far end.
-/

namespace LogHistory

/-! ### Shares -/

theorem Settings.quotaFor_pos (s : Settings) (n : Nat) : 1 ≤ s.quotaFor n := Nat.le_max_left ..

theorem Settings.mul_quotaFor_le (s : Settings) (n : Nat) :
    n * s.quotaFor n ≤ max s.maxLogRecords.toNat n := by
  have htotal : s.maxLogRecords.toNat ≤ UInt32.size - 1 := by
    have := s.maxLogRecords.toNat_lt_size
    omega
  unfold quotaFor
  by_cases hone : s.maxLogRecords.toNat / min (max n 1) (UInt32.size - 1) ≤ 1
  · rw [Nat.max_eq_left hone, Nat.mul_one]
    exact Nat.le_max_right ..
  · -- A share above one is left only if the count of sources was not cut to 32 bits.
    have hn : max n 1 ≤ UInt32.size - 1 := by
      refine Nat.le_of_not_lt fun hn => hone ?_
      rw [Nat.min_eq_right (Nat.le_of_lt hn)]
      exact Nat.div_le_of_le_mul (by omega)
    rw [Nat.max_eq_right (by omega), Nat.min_eq_left hn]
    calc n * (s.maxLogRecords.toNat / max n 1)
        ≤ max n 1 * (s.maxLogRecords.toNat / max n 1) :=
          Nat.mul_le_mul_right _ (Nat.le_max_left ..)
      _ ≤ s.maxLogRecords.toNat := Nat.mul_div_le ..
      _ ≤ max s.maxLogRecords.toNat n := Nat.le_max_left ..

theorem Collector.cap_pos (c : Collector) : 1 ≤ c.cap := by
  have hne : c.settings.maxRecordsPerCall ≠ 0 := by
    intro hzero
    have hvalid := c.valid
    rw [Settings.validate, if_pos (.inl hzero)] at hvalid
    cases hvalid
  exact Nat.pos_of_ne_zero fun h => hne (UInt32.toNat_inj.mp h)

/-! ### The invariant -/

theorem DecoderTable.length_accepted_add_rejected (d : DecoderTable) (payloads : List Payload) :
    (d.accepted payloads).length + d.rejected payloads = payloads.length := by
  unfold accepted rejected
  induction payloads with
  | nil => rfl
  | cons p payloads ih =>
    rw [List.filterMap_cons, List.countP_cons, List.length_cons, ← ih]
    cases d.decode p with
    | ok record =>
      simp only [Except.toOption, Except.isOk, Except.toBool, Option.map_some, List.length_cons,
        Bool.not_true, Bool.false_eq_true, if_false]
      omega
    | error e =>
      simp only [Except.toOption, Except.isOk, Except.toBool, Option.map_none, Bool.not_false,
        if_true]
      omega

namespace Fetch

/-- Where a source stands when it is called. -/
structure Within (f : Fetch) (quota : Nat) : Prop where
  /-- What came and what remains make up the quota. -/
  account : f.records.length + f.skipped + f.remaining = quota
  /-- Something remains. -/
  pos : 1 ≤ f.remaining

/-- What the source may still use up: what remains of the quota, and the quota again unless it was
started over. -/
def credit (f : Fetch) (quota : Nat) : Nat := f.remaining + if f.restarted then 0 else quota

theorem within_fresh {quota : Nat} (h : 1 ≤ quota) : (fresh quota).Within quota :=
  ⟨Nat.zero_add quota, h⟩

/-- No page is larger than what remains, so taking one away never goes below nothing. -/
theorem length_take_ask_le (f : Fetch) (cap : Nat) (payloads : List Payload) :
    (payloads.take (f.ask cap)).length ≤ f.remaining :=
  Nat.le_trans (List.length_take_le ..) (Nat.min_le_left ..)

/-- A page moves from what remains to what came. -/
theorem account_take (f : Fetch) (d : DecoderTable) (cap : Nat) (payloads : List Payload) :
    (f.take d (f.ask cap) payloads).records.length + (f.take d (f.ask cap) payloads).skipped +
        (f.take d (f.ask cap) payloads).remaining =
      f.records.length + f.skipped + f.remaining := by
  have hpage := d.length_accepted_add_rejected (payloads.take (f.ask cap))
  have hle := f.length_take_ask_le cap payloads
  simp only [take, List.length_append]
  omega

theorem Within.ask {f : Fetch} {quota cap : Nat} (h : f.Within quota) (hcap : 1 ≤ cap) :
    1 ≤ f.ask cap ∧ f.ask cap ≤ min cap quota := by
  obtain ⟨haccount, hpos⟩ := h
  unfold Fetch.ask
  omega

end Fetch

variable {σ : Type} {serve : Service σ} {c : Collector} {window : Window} {source : NodeId}
  {quota : Nat}

/-- **A round keeps the invariant and lowers the credit.** -/
theorem Round.within {x : Exchange} {f f' : Fetch} {link link' : Link σ}
    (h : Round serve c window source quota x f link f' link') (hf : f.Within quota) :
    f'.Within quota ∧ f'.credit quota < f.credit quota := by
  obtain ⟨haccount, hpos⟩ := hf
  cases h with
  | startOver _ _ hrestarted =>
    refine ⟨⟨Nat.zero_add quota, by simp only [Fetch.restart]; omega⟩, ?_⟩
    simp only [Fetch.credit, Fetch.restart, hrestarted, if_true, Bool.false_eq_true, if_false]
    omega
  | @turn _ page _ _ _ _ hlen _ hremaining =>
    refine ⟨⟨(f.count.account_take c.decoders c.cap page.payloads).trans haccount,
      Nat.pos_of_ne_zero hremaining⟩, ?_⟩
    have hle : (f.count.take c.decoders (f.ask c.cap) page.payloads).remaining < f.remaining :=
      Nat.sub_lt hpos (Nat.pos_of_ne_zero hlen)
    exact Nat.add_lt_add_right hle _

/-- **The invariant holds wherever a source is called.** -/
theorem within_of_reachable {link₀ : Link σ} {s : Fetch × Link σ} (hquota : 1 ≤ quota)
    (h : Relation.ReflTransGen (GoesOn serve c window source quota) (.fresh quota, link₀) s) :
    s.1.Within quota := by
  induction h with
  | refl => exact Fetch.within_fresh hquota
  | tail _ hround ih =>
    obtain ⟨x, hround⟩ := hround
    exact (hround.within ih).1

theorem credit_add_le {s : Nat → Fetch × Link σ} (hquota : 1 ≤ quota)
    (h₀ : (s 0).1 = .fresh quota) {n : Nat}
    (h : ∀ m < n, GoesOn serve c window source quota (s m) (s (m + 1))) :
    (s n).1.Within quota ∧ (s n).1.credit quota + n ≤ 2 * quota := by
  induction n with
  | zero =>
    rw [h₀]
    refine ⟨Fetch.within_fresh hquota, ?_⟩
    simp only [Fetch.credit, Fetch.fresh, Bool.false_eq_true, if_false]
    omega
  | succ n ih =>
    obtain ⟨hwithin, hle⟩ := ih fun m hm => h m (Nat.lt_succ_of_lt hm)
    obtain ⟨x, hround⟩ := h n (Nat.lt_succ_self n)
    obtain ⟨hwithin', hlt⟩ := hround.within hwithin
    exact ⟨hwithin', by omega⟩

/-! ### Runs -/

/-- **The calls of a run are covered by the credit** of the state that it starts from. -/
theorem Fetches.length_exchanges_le {f : Fetch} {link : Link σ} {run : Run σ}
    (h : Fetches serve c window source quota f link run) (hf : f.Within quota) :
    run.exchanges.length ≤ f.credit quota := by
  induction h with
  | @stop f link run h =>
    have hone : run.exchanges.length ≤ 1 := by
      cases h with
      | cancelled => exact Nat.zero_le 1
      | giveUp | last | fail => exact Nat.le_refl 1
    exact Nat.le_trans hone (Nat.le_trans hf.pos (Nat.le_add_right ..))
  | round h _ ih =>
    obtain ⟨hf', hlt⟩ := h.within hf
    exact Nat.lt_of_le_of_lt (ih hf') hlt

/-- Every call is counted, also those before the source was started over. -/
theorem Fetches.calls_eq {f : Fetch} {link : Link σ} {run : Run σ}
    (h : Fetches serve c window source quota f link run) :
    run.fetch.calls = f.calls + UInt32.ofNat run.exchanges.length := by
  induction h with
  | stop h =>
    cases h with
    | cancelled => exact (UInt32.add_zero _).symm
    | giveUp | last | fail => rfl
  | @round x f f' link link' run h _ ih =>
    have hcalls : f'.calls = f.calls + 1 := by cases h <;> rfl
    rw [Run.fetch_after, Run.exchanges_after, List.length_cons, ih, hcalls, UInt32.ofNat_add,
      UInt32.add_assoc, UInt32.add_comm 1]
    rfl

/-- A source is started over at most once: a stale reply after that is the one at which it is given
up. -/
theorem Fetches.countP_isStale_le {f : Fetch} {link : Link σ} {run : Run σ}
    (h : Fetches serve c window source quota f link run) :
    run.exchanges.countP (·.isStale) ≤
      (if f.restarted then 0 else 1) + if run.failure = some .staleToken then 1 else 0 := by
  induction h with
  | stop h =>
    cases h with
    | cancelled => exact Nat.zero_le _
    | giveUp _ hv hf => simp [(Exchange.of_verdict_stale hv).1, hf]
    | last _ hv _ => simp [(Exchange.of_verdict_page hv).1]
    | fail _ hv => simp [(Exchange.of_verdict_failure hv).1]
  | round h _ ih =>
    rw [Run.exchanges_after, Run.failure_after, List.countP_cons]
    cases h with
    | startOver _ hv hf =>
      rw [if_pos (Exchange.of_verdict_stale hv).1, hf, Nat.add_comm]
      simpa [Fetch.restart] using ih
    | turn _ hv _ _ _ _ =>
      rw [if_neg (by simp [(Exchange.of_verdict_page hv).1])]
      exact ih

theorem Fetches.maxRecords_le {link : Link σ} {run : Run σ}
    (h : Fetches serve c window source quota (.fresh quota) link run) (hquota : 1 ≤ quota) :
    ∀ x ∈ run.exchanges, 1 ≤ x.request.maxRecords ∧ x.request.maxRecords ≤ min c.cap quota := by
  intro x hx
  obtain ⟨f, here, link', hreached, hcalls⟩ := h.exists_calls hx
  rw [hcalls.request_eq]
  exact (within_of_reachable hquota hreached).ask c.cap_pos

theorem Stop.length_records_add_skipped_le {f : Fetch} {link : Link σ} {run : Run σ}
    (h : Stop serve c window source f link run) (hf : f.Within quota) :
    run.fetch.records.length + run.fetch.skipped ≤ quota := by
  have haccount := hf.account
  cases h with
  | cancelled => simp only; omega
  | giveUp => simp only [Fetch.count, List.length_nil]; omega
  | @last _ _ page =>
    have htake := f.count.account_take c.decoders c.cap page.payloads
    simp only [Fetch.count, Fetch.ask] at htake ⊢
    omega
  | fail => simp only [Fetch.count]; omega

theorem Fetches.length_records_add_skipped_le {f : Fetch} {link : Link σ} {run : Run σ}
    (h : Fetches serve c window source quota f link run) (hf : f.Within quota) :
    run.fetch.records.length + run.fetch.skipped ≤ quota := by
  induction h with
  | stop h => exact h.length_records_add_skipped_le hf
  | round h _ ih => exact ih (h.within hf).1

/-! ### Collections -/

namespace Collector

/-- The quota of each source of a collection. -/
def quotaOf (c : Collector) (sources : List NodeId) : Nat := c.settings.quotaFor sources.length

theorem within_fresh_quotaOf (c : Collector) (sources : List NodeId) :
    (Fetch.fresh (c.quotaOf sources)).Within (c.quotaOf sources) :=
  Fetch.within_fresh (c.settings.quotaFor_pos _)

variable {sources : List NodeId} {start stop : Instant} {link : Link σ} {v : Visit}

theorem calls_of_mem (h : v ∈ (c.collect serve sources start stop link).1.visits) :
    v.exchanges.length ≤ 2 * c.quotaOf sources ∧
    v.exchanges.countP (·.isStale) ≤ 1 + (if v.report.failure = some .staleToken then 1 else 0) ∧
    v.report.calls = UInt32.ofNat v.exchanges.length := by
  rcases c.exists_fetches_of_mem h with ⟨source, rfl⟩ | ⟨window, source, link', run, -, hrun, rfl⟩
  · exact ⟨Nat.zero_le _, Nat.zero_le _, rfl⟩
  · have hcredit : (Fetch.fresh (c.quotaOf sources)).credit (c.quotaOf sources) =
        2 * c.quotaOf sources := (Nat.two_mul _).symm
    refine ⟨?_, hrun.countP_isStale_le, hrun.calls_eq.trans (UInt32.zero_add _)⟩
    rw [← hcredit]
    exact hrun.length_exchanges_le (c.within_fresh_quotaOf sources)

theorem quota_of_mem (h : v ∈ (c.collect serve sources start stop link).1.visits) :
    (∀ x ∈ v.exchanges, 1 ≤ x.request.maxRecords ∧
      x.request.maxRecords ≤ min c.cap (c.quotaOf sources)) ∧
    v.report.records = v.records.length ∧
    v.records.length + v.report.skipped ≤ c.quotaOf sources := by
  rcases c.exists_fetches_of_mem h with ⟨source, rfl⟩ | ⟨window, source, link', run, -, hrun, rfl⟩
  · exact ⟨by simp [Visit.refused], rfl, Nat.zero_le _⟩
  · exact ⟨hrun.maxRecords_le (c.settings.quotaFor_pos _), rfl,
      hrun.length_records_add_skipped_le (c.within_fresh_quotaOf sources)⟩

variable (serve c sources start stop link) in
theorem sources_collect :
    (c.collect serve sources start stop link).1.reports.map (·.source) = sources := by
  rw [Collection.reports, List.map_map]
  exact c.sources_visitAll (c.quotaOf sources) (Window.make start stop c.floor) sources link

theorem length_records_le :
    (c.collect serve sources start stop link).1.records.length ≤
      sources.length * c.quotaOf sources := by
  have hvisits : (c.collect serve sources start stop link).1.visits.length = sources.length := by
    have hsources := congrArg List.length (c.sources_collect serve sources start stop link)
    rwa [List.length_map, Collection.reports, List.length_map] at hsources
  have hle : ∀ n ∈ (c.collect serve sources start stop link).1.visits.map (·.records.length),
      n ≤ c.quotaOf sources := by
    intro n hn
    obtain ⟨v, hv, rfl⟩ := List.mem_map.mp hn
    exact (Nat.le_add_right ..).trans (quota_of_mem hv).2.2
  have hsum := List.sum_le_card_nsmul _ _ hle
  rwa [List.length_map, hvisits, smul_eq_mul, ← List.length_flatMap] at hsum

end Collector

/-- The number of records that a call asks for is an argument of the call, as a 32-bit number. -/
theorem Request.arguments_maxRecords (r : Request) (h : r.maxRecords ≤ c.cap) :
    ∃ n : UInt32, r.arguments[2]? = some (.uint32 n) ∧ n.toNat = r.maxRecords := by
  refine ⟨UInt32.ofNat r.maxRecords, rfl, UInt32.toNat_ofNat_of_lt' ?_⟩
  exact Nat.lt_of_le_of_lt h (UInt32.toNat_lt_size _)

/-- **A collection ends, whatever the far end answers**: every source is visited once and in its
turn, is called at most twice as often as its quota, and is started over at most once, since a stale
reply after that is the one it is given up for. All calls are reported, unless they could be too
many for 32 bits. Nor can the loop go on for ever from a fresh state of any source. -/
theorem calls_bounded (serve : Service σ) (c : Collector) (sources : List NodeId)
    (start stop : Instant) (link : Link σ) :
    (c.collect serve sources start stop link).1.reports.map (·.source) = sources ∧
    (∀ v ∈ (c.collect serve sources start stop link).1.visits,
      v.exchanges.length ≤ 2 * c.quotaOf sources ∧
      v.exchanges.countP (·.isStale) ≤
        1 + (if v.report.failure = some .staleToken then 1 else 0) ∧
      (2 * c.quotaOf sources < UInt32.size → v.report.calls.toNat = v.exchanges.length)) ∧
    ∀ (window : Window) (source : NodeId) (s : Nat → Fetch × Link σ),
      (s 0).1 = .fresh (c.quotaOf sources) →
      ∃ n < 2 * c.quotaOf sources,
        ¬ GoesOn serve c window source (c.quotaOf sources) (s n) (s (n + 1)) := by
  have hquota : 1 ≤ c.quotaOf sources := c.settings.quotaFor_pos _
  refine ⟨?_, ?_, ?_⟩
  · exact c.sources_collect serve sources start stop link
  · intro v hv
    obtain ⟨hlen, hstale, hcalls⟩ := Collector.calls_of_mem hv
    refine ⟨hlen, hstale, fun hsmall => ?_⟩
    rw [hcalls]
    exact UInt32.toNat_ofNat_of_lt' (Nat.lt_of_le_of_lt hlen hsmall)
  · intro window source s h₀
    by_contra! hgoes
    obtain ⟨hwithin, hle⟩ := credit_add_le hquota h₀ hgoes
    have hpos : 1 ≤ (s (2 * c.quotaOf sources)).1.credit (c.quotaOf sources) :=
      hwithin.pos.trans (Nat.le_add_right ..)
    omega

/-- **The quota is kept, whatever the far end answers.** No call asks for nothing, for more than one
call may ask for, or for more than the quota, and this is the number that is sent. Wherever a source
is called, what came and what remains make up the quota and something remains, so that no page takes
away more than remains. In the end no source has brought more than its quota, and the collection
holds no more records than it may, or than there are sources. -/
theorem quota_kept (serve : Service σ) (c : Collector) (sources : List NodeId)
    (start stop : Instant) (link : Link σ) :
    (∀ x ∈ (c.collect serve sources start stop link).1.exchanges,
      1 ≤ x.request.maxRecords ∧ x.request.maxRecords ≤ min c.cap (c.quotaOf sources) ∧
      ∃ n : UInt32, x.request.arguments[2]? = some (.uint32 n) ∧
        n.toNat = x.request.maxRecords) ∧
    (∀ (window : Window) (source : NodeId) (link₀ : Link σ) (f : Fetch) (link' : Link σ),
      Relation.ReflTransGen (GoesOn serve c window source (c.quotaOf sources))
        (.fresh (c.quotaOf sources), link₀) (f, link') →
      f.records.length + f.skipped + f.remaining = c.quotaOf sources ∧ 1 ≤ f.remaining ∧
      ∀ payloads : List Payload, (payloads.take (f.ask c.cap)).length ≤ f.remaining) ∧
    (∀ v ∈ (c.collect serve sources start stop link).1.visits,
      v.report.records + v.report.skipped ≤ c.quotaOf sources) ∧
    (c.collect serve sources start stop link).1.records.length ≤
      max c.settings.maxLogRecords.toNat sources.length := by
  refine ⟨?_, ?_, ?_, ?_⟩
  · intro x hx
    obtain ⟨v, hv, hx⟩ := List.mem_flatMap.mp hx
    obtain ⟨hpos, hle⟩ := (Collector.quota_of_mem hv).1 x hx
    exact ⟨hpos, hle, x.request.arguments_maxRecords (hle.trans (Nat.min_le_left ..))⟩
  · intro window source link₀ f link' hreach
    obtain ⟨haccount, hpos⟩ := within_of_reachable (c.settings.quotaFor_pos _) hreach
    exact ⟨haccount, hpos, f.length_take_ask_le c.cap⟩
  · intro v hv
    obtain ⟨-, hrecords, hle⟩ := Collector.quota_of_mem hv
    rw [hrecords]
    exact hle
  · exact Collector.length_records_le.trans (c.settings.mul_quotaFor_le _)

end LogHistory
