import LogHistory.Proofs.Rounds

/-!
# What a source contributes

Nothing that came is lost and nothing counts twice: what a source contributes can be read off the
calls that were made, whatever the far end answered. Only the calls since the source was last
started over count (`sinceRestart`). Of these, each good reply with its two results brought a page,
cut to what its call asked for (`Exchange.payloads`). The payloads that can be decoded are the
records of the source, in their order; the others are counted as skipped. The one exception is a
source whose token is stale for the second time, which contributes no record.

The proof keeps an account along the rounds of a run (`Accounts`): a page adds to it, starting over
opens a new one.
-/

namespace LogHistory

/-! ### What the calls brought -/

/-- The payloads that a call brought: those of a good reply with two results or more, cut to what
the call asked for. -/
def Exchange.payloads (x : Exchange) : List Payload :=
  match x.outcome with
  | .ok ⟨status, first :: _ :: _⟩ =>
    if status.isGood then first.payloads.take x.request.maxRecords else []
  | _ => []

/-- Whether the call came back with the status that its token is stale. -/
def Exchange.isStale (x : Exchange) : Bool :=
  match x.outcome with
  | .ok reply => reply.status = .staleToken
  | .error _ => false

/-- The calls since the source was started over, which is at its first stale reply; all of them if
there is none. -/
def sinceRestart (xs : List Exchange) : List Exchange :=
  if xs.any (·.isStale) then (xs.dropWhile (!·.isStale)).tail else xs

/-- The payloads of the calls since the source was started over, in their order. -/
def keptPayloads (xs : List Exchange) : List Payload := (sinceRestart xs).flatMap (·.payloads)

theorem sinceRestart_of_not_any {xs : List Exchange} (h : xs.any (·.isStale) = false) :
    sinceRestart xs = xs := by
  simp only [sinceRestart, h, Bool.false_eq_true, if_false]

theorem sinceRestart_cons_stale {x : Exchange} (xs : List Exchange) (h : x.isStale = true) :
    sinceRestart (x :: xs) = xs := by
  simp [sinceRestart, h]

theorem sinceRestart_cons {x : Exchange} {xs : List Exchange} (h : x.isStale = false)
    (hxs : xs.any (·.isStale) = true) : sinceRestart (x :: xs) = sinceRestart xs := by
  simp only [sinceRestart, List.any_cons, h, hxs, Bool.false_or, List.dropWhile_cons,
    Bool.not_false, if_true]

/-- **What a call brought follows from what came of it.** -/
theorem Exchange.of_verdict (x : Exchange) :
    match x.verdict with
    | .stale => x.isStale = true ∧ x.payloads = []
    | .page page => x.isStale = false ∧ x.payloads = page.payloads.take x.request.maxRecords
    | .failure _ => x.isStale = false ∧ x.payloads = [] := by
  obtain ⟨request, outcome⟩ := x
  cases outcome with
  | error e => exact ⟨rfl, rfl⟩
  | ok reply =>
    obtain ⟨status, outputs⟩ := reply
    have hbad : status.isGood = false → payloads ⟨request, .ok ⟨status, outputs⟩⟩ = [] := by
      intro hg
      match outputs with
      | [] | [_] => rfl
      | first :: _ :: _ => simp [payloads, hg]
    unfold verdict
    by_cases hi : status = .invalidArgument
    · simp only [if_pos hi]
      exact ⟨by simp [isStale, hi, StatusCode.staleToken, StatusCode.invalidArgument],
        hbad (by rw [hi]; rfl)⟩
    · by_cases hs : status = .staleToken
      · simp only [if_neg hi, if_pos hs]
        exact ⟨by simp [isStale, hs], hbad (by rw [hs]; rfl)⟩
      · have hstale : isStale ⟨request, .ok ⟨status, outputs⟩⟩ = false := by simp [isStale, hs]
        cases hg : status.isGood with
        | false =>
          simp only [if_neg hi, if_neg hs, hg, Bool.not_false, if_true]
          exact ⟨hstale, hbad hg⟩
        | true =>
          simp only [if_neg hi, if_neg hs, hg, Bool.not_true, Bool.false_eq_true, if_false]
          match outputs with
          | [] | [_] => exact ⟨hstale, rfl⟩
          | first :: second :: _ => exact ⟨hstale, if_pos hg⟩

theorem Exchange.of_verdict_stale {x : Exchange} (h : x.verdict = .stale) :
    x.isStale = true ∧ x.payloads = [] := by
  have hx := x.of_verdict
  rwa [h] at hx

theorem Exchange.of_verdict_page {x : Exchange} {page : Page} (h : x.verdict = .page page) :
    x.isStale = false ∧ x.payloads = page.payloads.take x.request.maxRecords := by
  have hx := x.of_verdict
  rwa [h] at hx

theorem Exchange.of_verdict_failure {x : Exchange} {e : Failure} (h : x.verdict = .failure e) :
    x.isStale = false ∧ x.payloads = [] := by
  have hx := x.of_verdict
  rwa [h] at hx

/-! ### Accounts -/

theorem DecoderTable.accepted_append (d : DecoderTable) (xs ys : List Payload) :
    d.accepted (xs ++ ys) = d.accepted xs ++ d.accepted ys := List.filterMap_append

theorem DecoderTable.rejected_append (d : DecoderTable) (xs ys : List Payload) :
    d.rejected (xs ++ ys) = d.rejected xs + d.rejected ys := List.countP_append

variable {σ : Type}

/-- A run from the state `f` comes to what `f` had and what the calls `xs` brought. -/
structure Accounts (d : DecoderTable) (f : Fetch) (xs : List Exchange) (run : Run σ) : Prop where
  /-- It fails on a stale token if and only if one of the calls found it stale. -/
  stale : run.failure = some .staleToken ↔ ∃ x ∈ xs, x.isStale = true
  /-- What can be decoded is added to the records, unless it fails on a stale token. -/
  records : run.fetch.records =
    if run.failure = some .staleToken then []
    else f.records ++ d.accepted (xs.flatMap (·.payloads))
  /-- What cannot be decoded is counted. -/
  skipped : run.fetch.skipped = f.skipped + d.rejected (xs.flatMap (·.payloads))

variable {serve : Service σ} {c : Collector} {window : Window} {source : NodeId} {quota : Nat}

/-- Only the records and the count of the state matter. -/
theorem Accounts.congr {d : DecoderTable} {f f' : Fetch} {xs : List Exchange} {run : Run σ}
    (h : Accounts d f xs run) (hr : f'.records = f.records) (hs : f'.skipped = f.skipped) :
    Accounts d f' xs run :=
  ⟨h.stale, by rw [hr]; exact h.records, by rw [hs]; exact h.skipped⟩

/-- A call before a run is no part of an account that does not mention it. -/
theorem Accounts.after {d : DecoderTable} {f : Fetch} {xs : List Exchange} {run : Run σ}
    (h : Accounts d f xs run) (x : Exchange) : Accounts d f xs (run.after x) :=
  ⟨h.stale, h.records, h.skipped⟩

/-- The account of a run that goes on after a page. -/
theorem Accounts.turn {d : DecoderTable} {f f' : Fetch} {x : Exchange} {xs : List Exchange}
    {run : Run σ} (h : Accounts d f' xs run) (hx : x.isStale = false)
    (hr : f'.records = f.records ++ d.accepted x.payloads)
    (hs : f'.skipped = f.skipped + d.rejected x.payloads) :
    Accounts d f (x :: xs) (run.after x) where
  stale := by simpa [hx] using h.stale
  records := by
    rw [List.flatMap_cons, d.accepted_append, ← List.append_assoc, ← hr]
    exact h.records
  skipped := by
    rw [List.flatMap_cons, d.rejected_append, ← Nat.add_assoc, ← hs]
    exact h.skipped

/-- What the page of a call adds to a source. -/
theorem Calls.take_page {f : Fetch} {link link' : Link σ} {x : Exchange} {page : Page}
    (h : Calls serve c window source f link x link') (hv : x.verdict = .page page) :
    x.isStale = false ∧
      (f.count.take c.decoders (f.ask c.cap) page.payloads).records =
        f.records ++ c.decoders.accepted x.payloads ∧
      (f.count.take c.decoders (f.ask c.cap) page.payloads).skipped =
        f.skipped + c.decoders.rejected x.payloads := by
  obtain ⟨hx, hp⟩ := Exchange.of_verdict_page hv
  rw [hp, h.request_eq]
  exact ⟨hx, rfl, rfl⟩

/-- **The round that ends the loop keeps the account**, unless it is the one that opens it. -/
theorem Stop.accounts {f : Fetch} {link : Link σ} {run : Run σ}
    (h : Stop serve c window source f link run) : Accounts c.decoders f run.exchanges run := by
  cases h with
  | cancelled => exact ⟨by simp, by simp [DecoderTable.accepted], by simp [DecoderTable.rejected]⟩
  | giveUp hcalls hv _ =>
    obtain ⟨hx, hp⟩ := Exchange.of_verdict_stale hv
    exact ⟨by simp [hx], by simp, by simp [hp, DecoderTable.rejected, Fetch.count]⟩
  | last hcalls hv _ =>
    obtain ⟨hx, hr, hs⟩ := hcalls.take_page hv
    exact ⟨by simp [hx], by simp [hr], by simp [hs]⟩
  | @fail _ x e hcalls hv =>
    obtain ⟨hx, hp⟩ := Exchange.of_verdict_failure hv
    have he : e ≠ .staleToken := fun he => hcalls.verdict_ne (he ▸ hv)
    exact ⟨by simp [hx, he], by simp [hp, he, DecoderTable.accepted, Fetch.count],
      by simp [hp, DecoderTable.rejected, Fetch.count]⟩

/-- A source that was started over keeps one account to the end. -/
theorem Fetches.accounts_of_restarted {f : Fetch} {link : Link σ} {run : Run σ}
    (h : Fetches serve c window source quota f link run) (hf : f.restarted = true) :
    Accounts c.decoders f run.exchanges run := by
  induction h with
  | stop h => exact h.accounts
  | round h _ ih =>
    cases h with
    | startOver _ _ hf' => simp [hf] at hf'
    | turn hcalls hv _ _ _ _ =>
      obtain ⟨hx, hr, hs⟩ := hcalls.take_page hv
      exact (ih hf).turn hx hr hs

/-- **The account of a run**: if the token was found stale, it is that of the calls after, from
nothing; otherwise it is that of all calls. -/
theorem Fetches.accounts {f : Fetch} {link : Link σ} {run : Run σ}
    (h : Fetches serve c window source quota f link run) (hf : f.restarted = false) :
    Accounts c.decoders (if run.exchanges.any (·.isStale) then .fresh quota else f)
      (sinceRestart run.exchanges) run := by
  induction h with
  | @stop f link run h =>
    have hnone : run.exchanges.any (·.isStale) = false := by
      cases h with
      | cancelled => rfl
      | giveUp _ _ hf' => simp [hf] at hf'
      | last _ hv _ => simp [(Exchange.of_verdict_page hv).1]
      | fail _ hv => simp [(Exchange.of_verdict_failure hv).1]
    rw [sinceRestart_of_not_any hnone, hnone]
    exact h.accounts
  | @round x f f' link link' run h hrun ih =>
    rw [Run.exchanges_after, List.any_cons]
    cases h with
    | startOver _ hv _ =>
      have hx := (Exchange.of_verdict_stale hv).1
      have hacc : Accounts c.decoders (.fresh quota) run.exchanges run :=
        (hrun.accounts_of_restarted rfl).congr rfl rfl
      rw [sinceRestart_cons_stale _ hx, hx]
      exact hacc.after x
    | turn hcalls hv _ _ _ _ =>
      obtain ⟨hx, hr, hs⟩ := hcalls.take_page hv
      have ih := ih hf
      -- If the token is stale later on, this page is dropped with all that came before.
      cases hany : run.exchanges.any (·.isStale) with
      | true =>
        rw [hany] at ih
        rw [sinceRestart_cons hx hany, hx]
        exact ih.after x
      | false =>
        rw [sinceRestart_of_not_any hany, hany] at ih
        rw [sinceRestart_of_not_any (by rw [List.any_cons, hx, hany, Bool.or_self]), hx]
        exact ih.turn hx hr hs

/-- **What a source contributes**: the records in the payloads that came since it was last started
over, in their order, each page cut to what its call asked for; and as skipped it counts those of
these payloads that cannot be decoded. A source whose token is found stale again after it was
started over, and no other, fails for that and contributes no record. This holds of every visit of a
collection, whatever the far end answers and whether the source is done or has failed. -/
theorem contribution_exact (serve : Service σ) (c : Collector) (sources : List NodeId)
    (start stop : Instant) (link : Link σ) :
    ∀ v ∈ (c.collect serve sources start stop link).1.visits,
      (v.report.failure = some .staleToken ↔
        ∃ x ∈ sinceRestart v.exchanges, x.isStale = true) ∧
      v.records = (if v.report.failure = some .staleToken then []
        else c.decoders.accepted (keptPayloads v.exchanges)) ∧
      v.report.records = v.records.length ∧
      v.report.skipped = c.decoders.rejected (keptPayloads v.exchanges) := by
  intro v hv
  rcases c.exists_fetches_of_mem hv with ⟨source, rfl⟩ | ⟨window, source, link', run, -, hrun, rfl⟩
  · refine ⟨?_, ?_, rfl, ?_⟩ <;>
      simp [Visit.refused, sinceRestart, keptPayloads, DecoderTable.accepted, DecoderTable.rejected]
  · have hacc : Accounts c.decoders (.fresh (c.settings.quotaFor sources.length))
        (sinceRestart run.exchanges) run := by
      simpa only [ite_self] using hrun.accounts rfl
    refine ⟨hacc.stale, ?_, rfl, ?_⟩
    · exact hacc.records
    · exact hacc.skipped.trans (Nat.zero_add _)

/-- A far end that brings a page, forgets its token, brings a page on which one payload is empty,
and breaks. -/
def forgetful : Service Nat := fun _ n =>
  let page (payloads : List Payload) : Except TransportFault Reply :=
    .ok ⟨.good, [.records payloads, .byteString (some [UInt8.ofNat n])]⟩
  let result := match n with
    | 0 => page [.structured (.make .epoch 500 "a")]
    | 1 => .ok ⟨.staleToken, []⟩
    | 2 => page [.structured (.make .epoch 500 "b"), ⟨.logRecordType, .empty⟩]
    | _ => .error (.other "gone")
  (⟨.immediate, false, result⟩, n + 1)

/-- The collector with the default settings. -/
def plainCollector : Collector := ⟨.default, 51, .getRecordsMethod, .default, rfl, rfl⟩

/-- Of what the forgetful far end gives, the first page does not count, and the second does although
the source fails after it. -/
theorem contribution_exact_forgetful :
    ∃ v ∈ (plainCollector.collect forgetful [.null] .epoch .epoch ⟨0, false⟩).1.visits,
      v.exchanges.length = 4 ∧ v.report.failure = some (.transport (.other "gone")) ∧
      v.records = [.ofLogRecord (.make .epoch 500 "b")] ∧ v.report.records = 1 ∧
      v.report.skipped = 1 := by
  obtain ⟨run, hrun, hlen, hfailure, hkept⟩ : ∃ run,
      Fetches forgetful plainCollector ⟨.epoch, .epoch, 51, by decide⟩ .null 1000 (.fresh 1000)
        ⟨0, false⟩ run ∧
      run.exchanges.length = 4 ∧ run.failure = some (.transport (.other "gone")) ∧
      keptPayloads run.exchanges =
        [.structured (.make .epoch 500 "b"), ⟨.logRecordType, .empty⟩] := by
    exact ⟨_,
      .round (.turn ⟨rfl, rfl⟩ rfl rfl (by decide) (by decide) (by decide)) <|
      .round (.startOver ⟨rfl, rfl⟩ rfl rfl) <|
      .round (.turn ⟨rfl, rfl⟩ rfl rfl (by decide) (by decide) (by decide)) <|
      .stop (.fail ⟨rfl, rfl⟩ rfl), rfl, rfl, rfl⟩
  have hv : run.visit .null ∈
      (plainCollector.collect forgetful [.null] .epoch .epoch ⟨0, false⟩).1.visits := by
    rw [(fetches_iff ..).mp hrun]
    exact List.mem_singleton.mpr rfl
  obtain ⟨-, hrecords, hcount, hskipped⟩ := contribution_exact _ _ _ _ _ _ _ hv
  have hdone : (run.visit .null).records = [.ofLogRecord (.make .epoch 500 "b")] := by
    have hkept' : keptPayloads (run.visit .null).exchanges = _ := hkept
    have hne : (run.visit .null).report.failure ≠ some .staleToken := fun h =>
      nomatch hfailure.symm.trans h
    rw [hrecords, if_neg hne, hkept']
    rfl
  refine ⟨_, hv, hlen, hfailure, hdone, ?_, hskipped.trans (congrArg _ hkept)⟩
  rw [hcount, hdone]
  rfl

end LogHistory
