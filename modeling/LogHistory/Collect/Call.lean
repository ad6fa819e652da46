import LogHistory.Collect.Status
import LogHistory.Collect.Window
import LogHistory.DecoderTable
import LogHistory.Time.Duration

/-!
# Calls

A call carries a request to a log object and brings back a reply, or fails on the way. `settle` says
what the caller learns. A call is waited for no longer than its time limit, and no longer than until
the collection is cancelled; an answer that is there at once counts even then.

## The model

The far end is a function from a request and its own state to an answer and its next state. Nothing
is assumed of it. An answer holds a reply or a failure of the transport, how long it takes, and
whether the collection is cancelled while the call is under way.
-/

namespace LogHistory

/-- A result of a method call. -/
inductive Output where
  /-- A page of records. -/
  | records (payloads : List Payload)
  /-- A byte string that may be absent. -/
  | byteString (bs : Option Bytes)
  /-- No value. -/
  | null
  deriving DecidableEq, Repr

/-- What a completed call brings back. -/
structure Reply where
  /-- How it went. -/
  status : StatusCode
  /-- Its results. -/
  outputs : List Output
  deriving DecidableEq, Repr

/-- Why a call was not completed. -/
inductive TransportFault where
  /-- The connection broke. -/
  | connectionLost (message : String)
  /-- Anything else. -/
  | other (message : String)
  deriving DecidableEq, Repr

/-- The wording of the error. -/
def TransportFault.message : TransportFault → String
  | connectionLost message => "connection lost: " ++ message
  | other message => "call failed: " ++ message

/-- Why a source contributes no more records. -/
inductive Failure where
  /-- The object refused an argument, or the window has no extent. -/
  | invalidArgument
  /-- The token was refused again after starting over. -/
  | staleToken
  /-- The call came back with a status that is not good. -/
  | badStatus (status : StatusCode)
  /-- The call came back with fewer than two results. -/
  | missingOutputs (count : Nat)
  /-- The call was not completed. -/
  | transport (error : TransportFault)
  /-- The call took too long. -/
  | timeout (limit : Duration)
  /-- The collection was cancelled. -/
  | cancelled
  deriving DecidableEq, Repr

/-- The wording of the error. -/
def Failure.message : Failure → String
  | invalidArgument => "invalid argument"
  | staleToken => "continuation point rejected again after restarting"
  | badStatus status => "call failed with status " ++ status.toText
  | missingOutputs count => "expected 2 output arguments, got " ++ toString count
  | transport error => error.message
  | timeout limit => "call timed out after " ++ limit.text
  | cancelled => "cancelled"

/-- A call for a page of records. -/
structure Request where
  /-- The log object that is asked. -/
  object : NodeId
  /-- The method by which it is asked. -/
  method : NodeId
  /-- The window of the records. -/
  window : Window
  /-- The most records that may come. -/
  maxRecords : Nat
  /-- The token of the page before, if there was one. -/
  token : Option Bytes
  deriving DecidableEq, Repr

/-- The arguments of the call. -/
def Request.arguments (r : Request) : List Argument :=
  r.window.arguments (UInt32.ofNat r.maxRecords) r.token

/-- How long an answer takes. -/
inductive Delay where
  /-- It is there at once. -/
  | immediate
  /-- It comes after so many milliseconds. -/
  | after (ms : Nat)
  /-- It never comes. -/
  | never
  deriving DecidableEq, Repr

/-- What the far end makes of a call. -/
structure Answer where
  /-- How long it takes. -/
  delay : Delay
  /-- Whether the collection is cancelled while the call is under way. -/
  cancels : Bool
  /-- What comes back. -/
  result : Except TransportFault Reply

/-- What the caller learns of a call, given its time limit and whether the collection is cancelled
by now. -/
def Answer.settle (a : Answer) (limit : Duration) (cancelled : Bool) : Except Failure Reply :=
  match a.delay with
  | .immediate => a.result.mapError .transport
  | .after ms =>
    if cancelled then .error .cancelled
    else if limit.nanos < (Duration.ofMillis ms).nanos then .error (.timeout limit)
    else a.result.mapError .transport
  | .never => .error (if cancelled then .cancelled else .timeout limit)

/-- A far end with states `σ`. -/
abbrev Service (σ : Type) := Request → σ → Answer × σ

/-- A far end as a collection sees it: its state, and whether the collection is cancelled. -/
structure Link (σ : Type) where
  /-- The state of the far end. -/
  state : σ
  /-- Whether the collection is cancelled. Once it is, it stays so. -/
  cancelled : Bool

/-- A call that was made, and what the caller learned. -/
structure Exchange where
  /-- The call. -/
  request : Request
  /-- What came of it. -/
  outcome : Except Failure Reply

/-- Makes a call. -/
def Service.call {σ : Type} (serve : Service σ) (limit : Duration) (request : Request)
    (link : Link σ) : Exchange × Link σ :=
  let (answer, state) := serve request link.state
  let cancelled := link.cancelled || answer.cancels
  (⟨request, answer.settle limit cancelled⟩, ⟨state, cancelled⟩)

end LogHistory
