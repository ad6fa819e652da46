import LogHistory.NodeId.Basic
import LogHistory.Wire.Read
import LogHistory.Wire.Write

/-!
# Identifiers on the wire

The first byte says which form follows.

* Form 0 has a number of one byte, in namespace 0.
* Form 1 has a namespace of one byte and a number of two.
* Form 2 has a namespace of two bytes and a number of four.
* Form 3 has a namespace of two bytes and a text.
* Forms 4 and 5 have a namespace and sixteen bytes or a byte string. What they name is not
  represented; they are read as the null identifier.

Only the low four bits of the first byte count. Any other form has no further bytes and is read as
the null identifier. A number is written in the first form that holds it.
-/

namespace LogHistory

namespace NodeId

/-- The shortest wire form. -/
def encode : NodeId → Write.Result
  | numeric ns value =>
    if ns.toNat = 0 ∧ value.toNat < 256 then .ok [0, UInt8.ofNat value.toNat]
    else if ns.toNat < 256 ∧ value.toNat < 65536 then
      .ok (1 :: UInt8.ofNat ns.toNat :: LittleEndian.encode 2 value.toNat)
    else .ok (2 :: (Write.uint16 ns ++ Write.uint32 value))
  | text ns value => do
    return 3 :: (Write.uint16 ns ++ (← Write.text value))

/-- The wire form of an identifier that may be absent. -/
def encode? : Option NodeId → Write.Result
  | none => .ok [0, 0]
  | some id => id.encode

end NodeId

namespace Read

/-- An identifier in any of its forms. -/
def nodeId : Read NodeId := do
  let form ← byte
  match form.toNat % 16 with
  | 0 =>
    let value ← byte
    return .numeric 0 (UInt32.ofNat value.toNat)
  | 1 =>
    let ns ← byte
    let value ← uint16
    return .numeric (UInt16.ofNat ns.toNat) (UInt32.ofNat value.toNat)
  | 2 =>
    let ns ← uint16
    let value ← uint32
    return .numeric ns value
  | 3 =>
    let ns ← uint16
    let value ← text
    return .text ns value
  | 4 =>
    let _ ← uint16
    skip 16
    return .null
  | 5 =>
    let _ ← uint16
    let _ ← byteString?
    return .null
  | _ => return .null

/-- An identifier, absent if it is null. -/
def nodeId? : Read (Option NodeId) := do
  let id ← nodeId
  return if id.isNull then none else some id

end Read

/-- Reads an identifier from the start of a byte string. -/
def NodeId.decode (data : Bytes) : Except DecodeError (NodeId × Nat) := decodeWith Read.nodeId data

end LogHistory
