import LogHistory.Payload

/-!
# Decoder tables

A table knows by type how the bytes of a payload become a record. Servers may define the type of log
records in a namespace of their own, so bytes for which the table has no decoder, or whose own
decoder refuses them, are tried as a plain log record before they are given up. For the standard
type that has already been done.
-/

namespace LogHistory

/-- A way to make a record of bytes. -/
abbrev Decoder := Bytes → Except DecodeError LogRecord

/-- The decoder of plain log records. What follows the record is not looked at. -/
def standardDecoder : Decoder := fun data => (LogRecord.decode data).map Prod.fst

/-- How the payloads of a type are decoded. -/
inductive DecoderKind where
  /-- As plain log records. -/
  | standard
  /-- By a decoder of their own. -/
  | custom (decoder : Decoder)

/-- Decoders by type. -/
structure DecoderTable where
  /-- The types with how they are decoded; of two entries for a type the first counts. -/
  entries : List (NodeId × DecoderKind)

namespace DecoderTable

/-- The table that knows no type. -/
def empty : DecoderTable := ⟨[]⟩

/-- The table that knows the standard type of log records. -/
def default : DecoderTable := ⟨[(.logRecordType, .standard)]⟩

/-- The table with a decoder for a type, in place of the one it may have had. -/
def register (t : DecoderTable) (typeId : NodeId) (decoder : Decoder) : DecoderTable :=
  ⟨(typeId, .custom decoder) :: t.entries⟩

/-- How the payloads of a type are decoded, if the table knows it. -/
def kind? (t : DecoderTable) (typeId : NodeId) : Option DecoderKind := t.entries.lookup typeId

/-- Whether the table knows a type. -/
def knows (t : DecoderTable) (typeId : NodeId) : Bool := (t.kind? typeId).isSome

/-- The record in the bytes of a payload. -/
def decodeRaw (t : DecoderTable) (typeId : NodeId) (data : Bytes) :
    Except PayloadError LogRecord :=
  match t.kind? typeId with
  | some .standard => (standardDecoder data).mapError (.decode typeId)
  | some (.custom decoder) =>
    match decoder data with
    | .ok record => .ok record
    | .error own => (standardDecoder data).mapError fun _ => .decode typeId own
  | none => (standardDecoder data).mapError (.unrecognizedType typeId)

/-- The record in a payload. -/
def decode (t : DecoderTable) (p : Payload) : Except PayloadError LogRecord :=
  match p.body with
  | .structured record => .ok record
  | .empty => .error (.empty p.typeId)
  | .raw [] => .error (.empty p.typeId)
  | .raw data => t.decodeRaw p.typeId data

end DecoderTable

end LogHistory
