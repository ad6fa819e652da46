import LogHistory.Scalar.Basic
import LogHistory.Wire.Read
import LogHistory.Wire.Write

/-!
# Scalars on the wire

The first byte holds the type in its low six bits; the two high bits are not looked at. The value
follows at its full width. A type that is not represented has no value: it is read as its tag alone
and cannot be written.
-/

namespace LogHistory

namespace Scalar

/-- The bytes after the type. -/
def payload : Scalar → Write.Result
  | null => .ok []
  | bool v => .ok [if v then 1 else 0]
  | sbyte v => .ok [v.toUInt8]
  | byte v => .ok [v]
  | int16 v => .ok (Write.uint16 v.toUInt16)
  | uint16 v => .ok (Write.uint16 v)
  | int32 v => .ok (Write.uint32 v.toUInt32)
  | uint32 v => .ok (Write.uint32 v)
  | int64 v => .ok (Write.uint64 v.toUInt64)
  | uint64 v => .ok (Write.uint64 v)
  | float bits => .ok (Write.uint32 bits)
  | double bits => .ok (Write.uint64 bits)
  | text v => Write.text v
  | unsupported tag => .error (.unsupportedScalar tag)

/-- The wire form. -/
def encode (v : Scalar) : Write.Result := do
  return v.typeId :: (← v.payload)

end Scalar

namespace Read

/-- A scalar of any type. -/
def scalar : Read Scalar := do
  let tag ← byte
  match tag.toNat % 64 with
  | 0 => return .null
  | 1 => return .bool (← flag)
  | 2 => return .sbyte (← int8)
  | 3 => return .byte (← byte)
  | 4 => return .int16 (← int16)
  | 5 => return .uint16 (← uint16)
  | 6 => return .int32 (← int32)
  | 7 => return .uint32 (← uint32)
  | 8 => return .int64 (← int64)
  | 9 => return .uint64 (← uint64)
  | 10 => return .float (← uint32)
  | 11 => return .double (← uint64)
  | 12 => return .text (← text)
  | other => return .unsupported (UInt8.ofNat other)

end Read

/-- Reads a scalar from the start of a byte string. -/
def Scalar.decode (data : Bytes) : Except DecodeError (Scalar × Nat) := decodeWith Read.scalar data

end LogHistory
