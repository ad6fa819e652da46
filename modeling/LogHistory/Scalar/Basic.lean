import LogHistory.Decimal.Positional

/-!
# Scalars

The values of a record's additional data. Floating-point numbers are kept as bits. A value of a type
that is not represented is known by its tag alone.
-/

namespace LogHistory

/-- A single value. -/
inductive Scalar where
  /-- No value. -/
  | null
  /-- A truth value. -/
  | bool (v : Bool)
  /-- A signed number of 8 bits. -/
  | sbyte (v : Int8)
  /-- A number of 8 bits. -/
  | byte (v : UInt8)
  /-- A signed number of 16 bits. -/
  | int16 (v : Int16)
  /-- A number of 16 bits. -/
  | uint16 (v : UInt16)
  /-- A signed number of 32 bits. -/
  | int32 (v : Int32)
  /-- A number of 32 bits. -/
  | uint32 (v : UInt32)
  /-- A signed number of 64 bits. -/
  | int64 (v : Int64)
  /-- A number of 64 bits. -/
  | uint64 (v : UInt64)
  /-- A floating-point number of 32 bits. -/
  | float (bits : UInt32)
  /-- A floating-point number of 64 bits. -/
  | double (bits : UInt64)
  /-- A text. -/
  | text (v : String)
  /-- A value of another type. -/
  | unsupported (tag : UInt8)
  deriving DecidableEq, Repr

namespace Scalar

/-- The number of the value's type. -/
def typeId : Scalar → UInt8
  | null => 0
  | bool _ => 1
  | sbyte _ => 2
  | byte _ => 3
  | int16 _ => 4
  | uint16 _ => 5
  | int32 _ => 6
  | uint32 _ => 7
  | int64 _ => 8
  | uint64 _ => 9
  | float _ => 10
  | double _ => 11
  | text _ => 12
  | unsupported tag => tag

/-- Whether there is a value. -/
def hasValue : Scalar → Bool
  | null => false
  | unsupported _ => false
  | _ => true

/-- The value as text. -/
def toText : Scalar → String
  | null => "null"
  | bool v => if v then "true" else "false"
  | sbyte v => toString v.toInt
  | byte v => toString v.toNat
  | int16 v => toString v.toInt
  | uint16 v => toString v.toNat
  | int32 v => toString v.toInt
  | uint32 v => toString v.toNat
  | int64 v => toString v.toInt
  | uint64 v => toString v.toNat
  | float bits => Decimal.binary32.text bits.toNat
  | double bits => Decimal.binary64.text bits.toNat
  | text v => v
  | unsupported tag => "<unsupported type " ++ toString tag.toNat ++ ">"

/-- Equality of values, by which floating-point numbers compare as numbers. -/
def same : Scalar → Scalar → Bool
  | float a, float b => Decimal.binary32.equal a.toNat b.toNat
  | double a, double b => Decimal.binary64.equal a.toNat b.toNat
  | a, b => a = b

/-- Whether the value is a floating-point NaN, the only kind of value that differs from itself. -/
def isNaN : Scalar → Bool
  | float bits => Decimal.binary32.isNaN bits.toNat
  | double bits => Decimal.binary64.isNaN bits.toNat
  | _ => false

end Scalar

end LogHistory
