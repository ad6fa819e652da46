import LogHistory.LogObject.Script
import LogHistory.Proofs.Rounds

/-!
# Far ends that answer alike

A run depends on the far end only through the answers to its own calls. So two far ends, with states
of different kinds even, lead a source to the same end if they answer its calls alike for as long as
their states are related, and the answers keep them related.

A site is such a far end. It answers a call from the object that is called and changes no other one,
so what comes of a source depends on the source's own object alone.

## What is proved

* `Fetches.alike` — the run of a source against the one far end is that against the other.
* `Collector.visitAll_alike` — so are the visits of any sources whose calls they answer alike.
* `Site.answer_serve`, `Site.object?_serve` — what a call of a site brings and what it changes.
* `LogObject.alike_site` — a site answers the calls of a source as the source's object does.
* `Site.alike_of_agreeOn` — sites that have the same objects for some sources answer the calls of
  these alike.
-/

namespace LogHistory

variable {σ τ : Type}

/-! ### Related far ends -/

/-- Related far ends answer the calls of a source alike and stay related. -/
def Service.Alike (serve : Service σ) (serve' : Service τ) (source : NodeId)
    (rel : σ → τ → Prop) : Prop :=
  ∀ (request : Request) (s : σ) (t : τ), request.object = source → rel s t →
    (serve request s).1 = (serve' request t).1 ∧ rel (serve request s).2 (serve' request t).2

/-- Two links with related far ends. -/
structure Link.Alike (rel : σ → τ → Prop) (link : Link σ) (link' : Link τ) : Prop where
  /-- Both or neither are cancelled. -/
  cancelled : link.cancelled = link'.cancelled
  /-- The far ends are related. -/
  related : rel link.state link'.state

/-- Two runs that differ in nothing but related far ends. -/
structure Run.Alike (rel : σ → τ → Prop) (run : Run σ) (run' : Run τ) : Prop where
  /-- They come equally far. -/
  fetch : run.fetch = run'.fetch
  /-- They fail alike, if they do. -/
  failure : run.failure = run'.failure
  /-- The same calls are made. -/
  exchanges : run.exchanges = run'.exchanges
  /-- The links are alike. -/
  link : Link.Alike rel run.link run'.link

theorem Run.Alike.after {rel : σ → τ → Prop} {run : Run σ} {run' : Run τ}
    (h : run.Alike rel run') (x : Exchange) : (run.after x).Alike rel (run'.after x) :=
  ⟨h.fetch, h.failure, congrArg (x :: ·) h.exchanges, h.link⟩

section Runs

variable {serve : Service σ} {serve' : Service τ} {c : Collector} {window : Window}
  {source : NodeId} {quota : Nat} {rel : σ → τ → Prop}

theorem Calls.alike (h : serve.Alike serve' source rel) {f : Fetch} {link₁ link₂ : Link σ}
    {x : Exchange} (hcalls : Calls serve c window source f link₁ x link₂) {link₁' : Link τ}
    (hlink : link₁.Alike rel link₁') :
    ∃ link₂', Calls serve' c window source f link₁' x link₂' ∧ link₂.Alike rel link₂' := by
  obtain ⟨hlive, hmade⟩ := hcalls
  obtain ⟨hanswer, hstate⟩ :=
    h (f.request c window source) link₁.state link₁'.state rfl hlink.related
  simp only [Service.call, Prod.mk.injEq] at hmade
  obtain ⟨rfl, rfl⟩ := hmade
  refine ⟨(serve'.call c.timeout (f.request c window source) link₁').2,
    ⟨hlink.cancelled ▸ hlive, ?_⟩, ?_, hstate⟩
  · simp only [Service.call, hanswer, hlink.cancelled]
  · simp only [Service.call, hanswer, hlink.cancelled]

theorem Round.alike (h : serve.Alike serve' source rel) {x : Exchange} {f f' : Fetch}
    {link₁ link₂ : Link σ} (hround : Round serve c window source quota x f link₁ f' link₂)
    {link₁' : Link τ} (hlink : link₁.Alike rel link₁') :
    ∃ link₂', Round serve' c window source quota x f link₁' f' link₂' ∧
      link₂.Alike rel link₂' := by
  cases hround with
  | startOver hcalls hv hf =>
    obtain ⟨link₂', hcalls', hlink'⟩ := hcalls.alike h hlink
    exact ⟨link₂', .startOver hcalls' hv hf, hlink'⟩
  | turn hcalls hv hnext hlen htoken hremaining =>
    obtain ⟨link₂', hcalls', hlink'⟩ := hcalls.alike h hlink
    exact ⟨link₂', .turn hcalls' hv hnext hlen htoken hremaining, hlink'⟩

theorem Stop.alike (h : serve.Alike serve' source rel) {f : Fetch} {link : Link σ} {run : Run σ}
    (hstop : Stop serve c window source f link run) {link' : Link τ}
    (hlink : link.Alike rel link') :
    ∃ run', Stop serve' c window source f link' run' ∧ run.Alike rel run' := by
  cases hstop with
  | cancelled hc => exact ⟨_, .cancelled (hlink.cancelled ▸ hc), rfl, rfl, rfl, hlink⟩
  | giveUp hcalls hv hf =>
    obtain ⟨link₂', hcalls', hlink'⟩ := hcalls.alike h hlink
    exact ⟨_, .giveUp hcalls' hv hf, rfl, rfl, rfl, hlink'⟩
  | last hcalls hv hlast =>
    obtain ⟨link₂', hcalls', hlink'⟩ := hcalls.alike h hlink
    exact ⟨_, .last hcalls' hv hlast, rfl, rfl, rfl, hlink'⟩
  | fail hcalls hv =>
    obtain ⟨link₂', hcalls', hlink'⟩ := hcalls.alike h hlink
    exact ⟨_, .fail hcalls' hv, rfl, rfl, rfl, hlink'⟩

/-- **A source comes to the same end** against far ends that answer its calls alike. -/
theorem Fetches.alike (h : serve.Alike serve' source rel) {f : Fetch} {link : Link σ}
    {run : Run σ} (hrun : Fetches serve c window source quota f link run) :
    ∀ {link' : Link τ}, link.Alike rel link' →
      ∃ run', Fetches serve' c window source quota f link' run' ∧ run.Alike rel run' := by
  induction hrun with
  | stop hstop =>
    intro link' hlink
    obtain ⟨run', hstop', hrun'⟩ := hstop.alike h hlink
    exact ⟨run', .stop hstop', hrun'⟩
  | round hround _ ih =>
    intro link' hlink
    obtain ⟨link₂', hround', hlink'⟩ := hround.alike h hlink
    obtain ⟨run', hfetches', hrun'⟩ := ih hlink'
    exact ⟨run'.after _, .round hround' hfetches', hrun'.after _⟩

/-- What every call to a source keeps, a run keeps. -/
theorem Fetches.link_of_call {P : Link σ → Prop}
    (hcall : ∀ (request : Request) (link : Link σ), request.object = source → P link →
      P (serve.call c.timeout request link).2)
    {f : Fetch} {link : Link σ} {run : Run σ}
    (hrun : Fetches serve c window source quota f link run) (hlink : P link) : P run.link := by
  have hcalls : ∀ {f : Fetch} {link link' : Link σ} {x : Exchange},
      Calls serve c window source f link x link' → P link → P link' := by
    intro f link link' x h hlink
    have hnext := hcall (f.request c window source) link rfl hlink
    rwa [h.made] at hnext
  induction hrun with
  | stop hstop =>
    cases hstop with
    | cancelled => exact hlink
    | giveUp h | last h | fail h => exact hcalls h hlink
  | round hround _ ih =>
    cases hround with
    | startOver h | turn h => exact ih (hcalls h hlink)

end Runs

/-! ### Visits one after another -/

namespace Collector

variable {serve : Service σ} {serve' : Service τ} (c : Collector)
  (window : Except InvalidWindow Window) (quota : Nat)

theorem source_visit (source : NodeId) (link : Link σ) :
    (c.visit serve window quota source link).1.report.source = source := by
  cases window with
  | error e => rfl
  | ok window => rfl

theorem length_visitAll (sources : List NodeId) (link : Link σ) :
    (c.visitAll serve window quota sources link).1.length = sources.length := by
  rw [← List.length_map (fun v : Visit => v.report.source), c.sources_visitAll]

theorem visitAll_append (sources sources' : List NodeId) :
    ∀ link : Link σ, c.visitAll serve window quota (sources ++ sources') link =
      ((c.visitAll serve window quota sources link).1 ++
        (c.visitAll serve window quota sources'
          (c.visitAll serve window quota sources link).2).1,
      (c.visitAll serve window quota sources'
        (c.visitAll serve window quota sources link).2).2) := by
  induction sources with
  | nil => intro link; rfl
  | cons source sources ih =>
    intro link
    simp only [List.cons_append, visitAll, ih]

/-- The visit of a source is made over the link that the visits before it leave. -/
theorem getElem?_visitAll (sources : List NodeId) (i : Nat) :
    ∀ link : Link σ, (c.visitAll serve window quota sources link).1[i]? =
      sources[i]?.map fun source =>
        (c.visit serve window quota source
          (c.visitAll serve window quota (sources.take i) link).2).1 := by
  induction sources generalizing i with
  | nil => intro link; rfl
  | cons source sources ih =>
    intro link
    cases i with
    | zero => rfl
    | succ i => simpa only [visitAll, List.getElem?_cons_succ, List.take_succ_cons] using ih i _

theorem link_visit {P : Link σ → Prop} {source : NodeId}
    (hcall : ∀ (request : Request) (link : Link σ), request.object = source → P link →
      P (serve.call c.timeout request link).2) {link : Link σ} (hlink : P link) :
    P (c.visit serve window quota source link).2 := by
  cases window with
  | error e => exact hlink
  | ok window => exact (fetchFrom_fetches serve c window source quota _ _).link_of_call hcall hlink

theorem link_visitAll {P : Link σ → Prop} {sources : List NodeId}
    (hcall : ∀ (request : Request) (link : Link σ), request.object ∈ sources → P link →
      P (serve.call c.timeout request link).2) :
    ∀ {link : Link σ}, P link → P (c.visitAll serve window quota sources link).2 := by
  induction sources with
  | nil => intro link hlink; exact hlink
  | cons source sources ih =>
    intro link hlink
    refine ih (fun request link hmem => hcall request link (List.mem_cons_of_mem _ hmem)) ?_
    exact c.link_visit window quota
      (fun request link hobject => hcall request link (hobject ▸ List.mem_cons_self)) hlink

theorem live_of_visit {source : NodeId} {link : Link σ}
    (h : (c.visit serve window quota source link).2.cancelled = false) :
    link.cancelled = false := by
  cases window with
  | error e => exact h
  | ok window => exact (fetchFrom_fetches serve c window source quota _ _).live h

theorem live_of_visitAll {sources : List NodeId} :
    ∀ {link : Link σ}, (c.visitAll serve window quota sources link).2.cancelled = false →
      link.cancelled = false := by
  induction sources with
  | nil => intro link h; exact h
  | cons source sources ih => intro link h; exact c.live_of_visit window quota (ih h)

theorem visit_alike {source : NodeId} {rel : σ → τ → Prop} (h : serve.Alike serve' source rel)
    {link : Link σ} {link' : Link τ} (hlink : link.Alike rel link') :
    (c.visit serve window quota source link).1 = (c.visit serve' window quota source link').1 ∧
      (c.visit serve window quota source link).2.Alike rel
        (c.visit serve' window quota source link').2 := by
  cases window with
  | error e => exact ⟨rfl, hlink⟩
  | ok window =>
    obtain ⟨run', hrun', halike⟩ :=
      (fetchFrom_fetches serve c window source quota (.fresh quota) link).alike h hlink
    rw [visit_eq_of_fetches hrun']
    refine ⟨?_, halike.link⟩
    simp only [visit, Run.visit, halike.fetch, halike.failure, halike.exchanges]

/-- **The visits of sources come to the same** over far ends that answer their calls alike. -/
theorem visitAll_alike {rel : σ → τ → Prop} {sources : List NodeId}
    (h : ∀ source ∈ sources, serve.Alike serve' source rel) :
    ∀ {link : Link σ} {link' : Link τ}, link.Alike rel link' →
      (c.visitAll serve window quota sources link).1 =
          (c.visitAll serve' window quota sources link').1 ∧
        (c.visitAll serve window quota sources link).2.Alike rel
          (c.visitAll serve' window quota sources link').2 := by
  induction sources with
  | nil => intro link link' hlink; exact ⟨rfl, hlink⟩
  | cons source sources ih =>
    intro link link' hlink
    rw [List.forall_mem_cons] at h
    obtain ⟨hvisit, hlink⟩ := c.visit_alike window quota h.1 hlink
    obtain ⟨hvisits, hlink⟩ := ih h.2 hlink
    exact ⟨by simp only [visitAll, hvisit, hvisits], hlink⟩

end Collector

/-! ### Sites -/

namespace Site

/-- The object that a site has for an identifier. -/
def object? (site : Site) (id : NodeId) : Option LogObject := site.find? (·.id = id)

theorem object?_cons (o : LogObject) (os : Site) (id : NodeId) :
    object? (o :: os) id = if o.id = id then some o else object? os id := by
  by_cases h : o.id = id <;> simp [object?, h]

/-- **The object that is called answers**, if there is one. -/
theorem answer_serve (request : Request) (site : Site) :
    (Site.serve request site).1 =
      ((site.object? request.object).map fun o => (o.answer request).1).getD
        ⟨.immediate, false, .ok ⟨.nodeIdUnknown, []⟩⟩ := by
  induction site with
  | nil => rfl
  | cons o os ih =>
    rw [object?_cons]
    by_cases h : o.id = request.object
    · simp [Site.serve, h]
    · simpa [Site.serve, h] using ih

/-- **A call changes the object that is called** and no other one. -/
theorem object?_serve (request : Request) (site : Site) (id : NodeId) :
    (Site.serve request site).2.object? id =
      if id = request.object then (site.object? id).map fun o => (o.answer request).2
      else site.object? id := by
  induction site with
  | nil => simp [Site.serve, object?]
  | cons o os ih =>
    by_cases h : o.id = request.object
    · have hserve : (Site.serve request (o :: os)).2 = (o.answer request).2 :: os := by
        simp [Site.serve, h]
      have hid : (o.answer request).2.id = o.id := rfl
      rw [hserve, object?_cons, object?_cons, hid, h]
      by_cases h' : id = request.object
      · simp [h']
      · simp [h', Ne.symm h']
    · have hserve : (Site.serve request (o :: os)).2 = o :: (Site.serve request os).2 := by
        simp [Site.serve, h]
      rw [hserve, object?_cons, object?_cons, ih]
      by_cases h' : o.id = id
      · have hne : id ≠ request.object := fun he => h (h'.trans he)
        simp [h', hne]
      · simp [h']

/-- Two sites have the same objects for the identifiers that `p` holds of. -/
def AgreeOn (p : NodeId → Prop) (site site' : Site) : Prop :=
  ∀ id, p id → site.object? id = site'.object? id

theorem alike_of_agreeOn {p : NodeId → Prop} {source : NodeId} (hp : p source) :
    Service.Alike Site.serve Site.serve source (AgreeOn p) := by
  rintro request site site' rfl hsites
  refine ⟨by rw [answer_serve, answer_serve, hsites _ hp], fun id hid => ?_⟩
  rw [object?_serve, object?_serve, hsites id hid]

end Site

/-- A log object that is the whole far end. -/
def LogObject.serve : Service LogObject := fun request o => o.answer request

/-- A site has the object for a source. -/
def LogObject.IsAt (source : NodeId) (o : LogObject) (site : Site) : Prop :=
  site.object? source = some o

/-- **A site answers the calls of a source as the source's object does.** -/
theorem LogObject.alike_site (source : NodeId) :
    LogObject.serve.Alike Site.serve source (LogObject.IsAt source) := by
  rintro request o site rfl hobject
  unfold LogObject.IsAt at hobject ⊢
  refine ⟨by rw [Site.answer_serve, hobject]; rfl, ?_⟩
  simp only [Site.object?_serve, hobject, if_true, Option.map_some]
  rfl

/-- **What comes of a source of a site** is what comes of its object alone. -/
theorem LogObject.visit_eq {c : Collector} {window : Window} {source : NodeId} {quota : Nat}
    {link : Link LogObject} {link' : Link Site} {run : Run LogObject}
    (hlink : link.Alike (LogObject.IsAt source) link')
    (hrun : Fetches LogObject.serve c window source quota (.fresh quota) link run) :
    (c.visit Site.serve (.ok window) quota source link').1 = run.visit source ∧
      run.link.Alike (LogObject.IsAt source)
        (c.visit Site.serve (.ok window) quota source link').2 := by
  have halike := c.visit_alike (.ok window) quota (LogObject.alike_site source) hlink
  rw [Collector.visit_eq_of_fetches hrun] at halike
  exact ⟨halike.1.symm, halike.2⟩

end LogHistory
