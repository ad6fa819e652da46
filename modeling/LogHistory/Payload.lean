import LogHistory.LogRecord.Wire

/-!
# Payloads

A log object gives out records as payloads: a body, and the identifier of the type it was encoded
with. The body may have been decoded already on the way, may still be bytes, or may be missing.
-/

namespace LogHistory

/-- What a payload holds. -/
inductive Body where
  /-- A record. -/
  | structured (record : LogRecord)
  /-- The bytes of one. -/
  | raw (data : Bytes)
  /-- Nothing. -/
  | empty
  deriving DecidableEq, Repr

/-- A record as a log object gives it out. -/
structure Payload where
  /-- The type it was encoded with. -/
  typeId : NodeId
  /-- What it holds. -/
  body : Body
  deriving DecidableEq, Repr

namespace Payload

/-- A decoded record; its type is that of log records. -/
def structured (record : LogRecord) : Payload := ⟨.logRecordType, .structured record⟩

end Payload

/-- Why a payload yields no record. -/
inductive PayloadError where
  /-- The decoder for its type refused the bytes. -/
  | decode (typeId : NodeId) (cause : DecodeError)
  /-- There is no decoder for its type, and the bytes are no log record. -/
  | unrecognizedType (typeId : NodeId) (cause : DecodeError)
  /-- There are no bytes. -/
  | empty (typeId : NodeId)
  deriving DecidableEq, Repr

/-- The wording of the error. -/
def PayloadError.message : PayloadError → String
  | decode typeId cause => "decoding record of type " ++ typeId.toText ++ ": " ++ cause.message
  | unrecognizedType typeId cause =>
    "no decoder for type " ++ typeId.toText ++ " and the body is not a log record: "
      ++ cause.message
  | empty typeId => "record of type " ++ typeId.toText ++ " has no body"

end LogHistory
