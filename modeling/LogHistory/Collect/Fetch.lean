import LogHistory.Collect.Call
import LogHistory.Collect.Collector
import LogHistory.TelemetryRecord

/-!
# Fetching the records of one source

The records of a window come in pages. Each call asks for as many as one call may bring and as are
left of the source's quota; the token of a page leads to the next one. The source is done when a
page has no token or is empty, when its token is the one just sent, or when the quota is used up. A
log object that no longer knows a token is started over, without what it has given so far; the
second time it is given up. Any other failure ends the source and keeps the pages before it.

## The model

`Fetch` is the state between two calls, and `Fetch.receive` says what a call's outcome does to it.
The run against a far end, `fetchFrom`, ends whatever the far end does: each further call either
uses up quota or is the one start over, which `Fetch.budget` counts.
-/

namespace LogHistory

/-- A page of records. -/
structure Page where
  /-- The records. -/
  payloads : List Payload
  /-- The token of the next page, if there is one. It is not empty. -/
  next : Option Bytes
  deriving DecidableEq, Repr

/-- The records of a result; anything but records counts as none. -/
def Output.payloads : Output → List Payload
  | records payloads => payloads
  | _ => []

/-- The token in a result; an empty byte string is none. -/
def Output.token? : Output → Option Bytes
  | byteString (some (b :: bs)) => some (b :: bs)
  | _ => none

/-- The page that a good reply brings. -/
def Reply.page (r : Reply) : Except Failure Page :=
  match r.outputs with
  | first :: second :: _ => .ok ⟨first.payloads, second.token?⟩
  | outputs => .error (.missingOutputs outputs.length)

/-- The records in payloads that can be decoded, in telemetry form. -/
def DecoderTable.accepted (t : DecoderTable) (payloads : List Payload) : List TelemetryRecord :=
  payloads.filterMap fun p => (t.decode p).toOption.map TelemetryRecord.ofLogRecord

/-- How many of the payloads cannot be decoded. -/
def DecoderTable.rejected (t : DecoderTable) (payloads : List Payload) : Nat :=
  payloads.countP fun p => !(t.decode p).isOk

/-- How far a source has been fetched. -/
structure Fetch where
  /-- The records so far. -/
  records : List TelemetryRecord
  /-- How many payloads could not be decoded. -/
  skipped : Nat
  /-- What is left of the quota. -/
  remaining : Nat
  /-- The token of the next page, none for the first. -/
  token : Option Bytes
  /-- Whether the source was started over. -/
  restarted : Bool
  /-- How many calls were made, as a 32-bit count. -/
  calls : UInt32
  deriving DecidableEq, Repr

namespace Fetch

/-- A source of which nothing has been fetched. -/
def fresh (quota : Nat) : Fetch := ⟨[], 0, quota, none, false, 0⟩

/-- The source started over. -/
def restart (f : Fetch) (quota : Nat) : Fetch := ⟨[], 0, quota, none, true, f.calls⟩

/-- The source with one more call made. -/
def count (f : Fetch) : Fetch := { f with calls := f.calls + 1 }

/-- How many records the next call asks for. -/
def ask (f : Fetch) (cap : Nat) : Nat := min f.remaining cap

/-- The source with the records of a page, of which no more are taken than were asked for. -/
def take (f : Fetch) (decoders : DecoderTable) (asked : Nat) (payloads : List Payload) : Fetch :=
  let page := payloads.take asked
  { f with
    records := f.records ++ decoders.accepted page
    skipped := f.skipped + decoders.rejected page
    remaining := f.remaining - page.length }

/-- What follows a call. -/
inductive Next where
  /-- Another call. -/
  | again (f : Fetch)
  /-- The source is done. -/
  | done (f : Fetch)
  /-- The source has failed. -/
  | failed (f : Fetch) (error : Failure)

/-- What follows a page. -/
def receivePage (f : Fetch) (decoders : DecoderTable) (asked : Nat) (page : Page) : Next :=
  match page.next with
  | none => .done (f.take decoders asked page.payloads)
  | some token =>
    if (page.payloads.take asked).length = 0 ∨ f.token = some token
        ∨ (f.take decoders asked page.payloads).remaining = 0 then
      .done (f.take decoders asked page.payloads)
    else .again { f.take decoders asked page.payloads with token := some token }

/-- What follows a completed call. -/
def receiveReply (f : Fetch) (decoders : DecoderTable) (quota asked : Nat) (reply : Reply) : Next :=
  if reply.status = .invalidArgument then .failed f .invalidArgument
  else if reply.status = .staleToken then
    if f.restarted then .failed { f with records := [] } .staleToken
    else .again (f.restart quota)
  else if !reply.status.isGood then .failed f (.badStatus reply.status)
  else match reply.page with
    | .error e => .failed f e
    | .ok page => f.receivePage decoders asked page

/-- What follows a call. -/
def receive (f : Fetch) (decoders : DecoderTable) (quota asked : Nat)
    (outcome : Except Failure Reply) : Next :=
  match outcome with
  | .error e => .failed f e
  | .ok reply => f.receiveReply decoders quota asked reply

/-- A bound on the calls still to come: a call each for what is left of the quota, and for a source
that was not started over one more and the whole quota again. -/
def budget (f : Fetch) (quota : Nat) : Nat :=
  f.remaining + if f.restarted then 0 else quota + 1

@[simp] theorem budget_count (f : Fetch) (quota : Nat) :
    f.count.budget quota = f.budget quota := rfl

theorem budget_restart_lt {f : Fetch} (quota : Nat) (h : ¬ f.restarted = true) :
    (f.restart quota).budget quota < f.budget quota := by
  simp only [budget, restart, h]
  simp only [if_true, Bool.false_eq_true, if_false]
  omega

theorem budget_receivePage_lt {f f' : Fetch} {decoders : DecoderTable} {quota asked : Nat}
    {page : Page} (h : f.receivePage decoders asked page = .again f') :
    f'.budget quota < f.budget quota := by
  unfold receivePage at h
  split at h
  · exact absurd h (by simp)
  · split at h
    · exact absurd h (by simp)
    · next hn =>
      cases h
      simp only [take, not_or] at hn
      exact Nat.add_lt_add_right
        (show f.remaining - (page.payloads.take asked).length < f.remaining by omega) _

theorem budget_receiveReply_lt {f f' : Fetch} {decoders : DecoderTable} {quota asked : Nat}
    {reply : Reply} (h : f.receiveReply decoders quota asked reply = .again f') :
    f'.budget quota < f.budget quota := by
  unfold receiveReply at h
  split at h
  · exact absurd h (by simp)
  · split at h
    · split at h
      · exact absurd h (by simp)
      · next hr => cases h; exact budget_restart_lt quota hr
    · split at h
      · exact absurd h (by simp)
      · split at h
        · exact absurd h (by simp)
        · exact budget_receivePage_lt h

/-- Every call but the last uses up some of the budget. -/
theorem budget_receive_lt {f f' : Fetch} {decoders : DecoderTable} {quota asked : Nat}
    {outcome : Except Failure Reply} (h : f.receive decoders quota asked outcome = .again f') :
    f'.budget quota < f.budget quota := by
  cases outcome with
  | error e => exact absurd h (by simp [receive])
  | ok reply => exact budget_receiveReply_lt h

end Fetch

/-- The outcome of fetching a source. -/
structure Run (σ : Type) where
  /-- How far it was fetched. -/
  fetch : Fetch
  /-- Why it failed, if it did. -/
  failure : Option Failure
  /-- The calls that were made. -/
  exchanges : List Exchange
  /-- The far end afterwards. -/
  link : Link σ

/-- The next call for a source. -/
def Fetch.request (f : Fetch) (c : Collector) (window : Window) (source : NodeId) : Request :=
  ⟨source, c.method, window, f.ask c.cap, f.token⟩

/-- Fetches a source from where it stands to its end. No call is made once the collection is
cancelled. -/
def fetchFrom {σ : Type} (serve : Service σ) (c : Collector) (window : Window) (source : NodeId)
    (quota : Nat) (f : Fetch) (link : Link σ) : Run σ :=
  if link.cancelled then ⟨f, some .cancelled, [], link⟩
  else
    let (exchange, link') := serve.call c.timeout (f.request c window source) link
    match _h : f.count.receive c.decoders quota (f.ask c.cap) exchange.outcome with
    | .again f' =>
      let run := fetchFrom serve c window source quota f' link'
      { run with exchanges := exchange :: run.exchanges }
    | .done f' => ⟨f', none, [exchange], link'⟩
    | .failed f' e => ⟨f', some e, [exchange], link'⟩
termination_by f.budget quota
decreasing_by simpa using Fetch.budget_receive_lt _h

end LogHistory
