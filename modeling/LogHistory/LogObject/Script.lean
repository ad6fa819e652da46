import LogHistory.LogObject.History

/-!
# Scripted log objects

To see how a collection copes with a log object that fails, an object can be given a script. Each
call takes the next step, which may serve the call, reply something else, fail, delay its answer or
let the collection be cancelled; after the last step all calls are served. A site is a set of such
objects; a call of an object that is not there is answered by a bad status.
-/

namespace LogHistory

/-- What comes of a call. -/
inductive Action where
  /-- The page that was asked for. -/
  | serve
  /-- A given reply. -/
  | reply (reply : Reply)
  /-- A failure of the transport. -/
  | fail (error : TransportFault)
  deriving DecidableEq, Repr

/-- A step of a script. -/
structure Step where
  /-- What comes of the call. -/
  action : Action
  /-- How long it takes. -/
  delay : Delay
  /-- Whether the collection is cancelled when the call arrives. -/
  cancels : Bool
  deriving DecidableEq, Repr

/-- The step of an object without a script. -/
def Step.plain : Step := ⟨.serve, .immediate, false⟩

/-- A log object that follows a script. -/
structure LogObject where
  /-- Its identifier. -/
  id : NodeId
  /-- What it holds. -/
  entries : List Entry
  /-- What it does with the next calls. -/
  script : List Step
  deriving DecidableEq, Repr

/-- The object's answer to a call, and the object afterwards. -/
def LogObject.answer (o : LogObject) (request : Request) : Answer × LogObject :=
  let step := o.script.headD .plain
  let result := match step.action with
    | .serve => .ok (History.serve o.entries request)
    | .reply reply => .ok reply
    | .fail error => .error error
  (⟨step.delay, step.cancels, result⟩, { o with script := o.script.tail })

/-- Log objects by identifier; of two with the same one the first counts. -/
abbrev Site := List LogObject

/-- The site's answer to a call. -/
def Site.serve : Service Site
  | _, [] => (⟨.immediate, false, .ok ⟨.nodeIdUnknown, []⟩⟩, [])
  | request, o :: os =>
    if o.id = request.object then
      let (answer, o') := o.answer request
      (answer, o' :: os)
    else
      let (answer, os') := Site.serve request os
      (answer, o :: os')

end LogHistory
