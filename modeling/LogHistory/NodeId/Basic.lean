/-!
# Node identifiers

A node of a server's address space is named by a namespace and, within it, a number or a text. The
number 0 of namespace 0 names nothing: it stands for an absent identifier.
-/

namespace LogHistory

/-- The name of a node. -/
inductive NodeId where
  /-- A number within a namespace. -/
  | numeric (ns : UInt16) (value : UInt32)
  /-- A text within a namespace. -/
  | text (ns : UInt16) (value : String)
  deriving DecidableEq, Repr

namespace NodeId

/-- The identifier that stands for none. -/
def null : NodeId := numeric 0 0

/-- The type of log records. -/
def logRecordType : NodeId := numeric 0 5001

/-- The method by which a log object gives out its records. -/
def getRecordsMethod : NodeId := numeric 0 11550

/-- Whether the identifier stands for none. -/
def isNull (id : NodeId) : Bool := id = null

/-- The namespace. -/
def ns : NodeId → UInt16
  | numeric ns _ => ns
  | text ns _ => ns

/-- The name of the kind of identifier. -/
def kind : NodeId → String
  | numeric _ _ => "Numeric"
  | text _ _ => "String"

/-- The number or text within the namespace. -/
def valueText : NodeId → String
  | numeric _ value => toString value.toNat
  | text _ value => value

end NodeId

end LogHistory
