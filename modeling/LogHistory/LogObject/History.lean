import LogHistory.Collect.Call

/-!
# Log objects

A log object holds entries in order, and gives out those of a window in pages. It keeps nothing
between calls: the token of a page is the place in the window's entries where the next page starts,
as a number of four bytes. A call without a token, or with one that is too short, starts at the
first.
-/

namespace LogHistory

/-- An entry of a log object. -/
structure Entry where
  /-- The record by which it is selected. -/
  record : LogRecord
  /-- What is given out. -/
  payload : Payload
  deriving DecidableEq, Repr

/-- Whether the entry belongs to a window: its time is set and within it, and it is severe enough.
-/
def Entry.isIn (e : Entry) (w : Window) : Bool :=
  match e.record.time with
  | none => false
  | some t => w.start ≤ t && t ≤ w.stop && w.floor ≤ e.record.severity

namespace History

/-- The entries that belong to a window. -/
def select (entries : List Entry) (w : Window) : List Entry := entries.filter (·.isIn w)

/-- The place that a token points to. -/
def place : Option Bytes → Nat
  | none => 0
  | some token => if token.length < 4 then 0 else LittleEndian.decode (token.take 4)

/-- The token that points to a place. -/
def token (place : Nat) : Bytes := LittleEndian.encode 4 place

/-- The reply to a request: a page, and a token if there is more. A request for no records at all
is one for any number of them. -/
def serve (entries : List Entry) (request : Request) : Reply :=
  let from? := place request.token
  let rest := ((select entries request.window).map Entry.payload).drop from?
  if 0 < request.maxRecords ∧ request.maxRecords < rest.length then
    ⟨.good, [.records (rest.take request.maxRecords),
      .byteString (some (token (from? + request.maxRecords)))]⟩
  else ⟨.good, [.records rest, .byteString none]⟩

end History

end LogHistory
