/-!
# Binary floating point

A floating-point number is kept as its bit pattern, so that nothing about it is lost, NaN payloads
included. `Format.read` says what a pattern stands for: not a number, an infinity, or a magnitude
`m * 2 ^ q` with a sign. `Format.equal` is the numbers' own equality, under which a NaN differs from
itself and the two zeros are the same.
-/

namespace LogHistory.Decimal

/-- A layout of sign, exponent and fraction, from the most significant bit down. -/
structure Format where
  /-- How many bits the fraction has. -/
  fraction : Nat
  /-- How many bits the exponent has. -/
  exponent : Nat
  deriving DecidableEq, Repr

/-- The layout with 32 bits. -/
def binary32 : Format := ⟨23, 8⟩

/-- The layout with 64 bits. -/
def binary64 : Format := ⟨52, 11⟩

/-- A magnitude `m * 2 ^ q`. -/
structure Magnitude where
  /-- The whole number. -/
  m : Nat
  /-- The power of two it is scaled by. -/
  q : Int
  /-- Whether the next smaller number is only half as far away as the next greater one. -/
  narrow : Bool
  deriving DecidableEq, Repr

/-- What a bit pattern stands for. -/
inductive Datum where
  /-- Not a number, whatever its sign and payload. -/
  | nan
  /-- An infinity. -/
  | infinite (negative : Bool)
  /-- A finite number, the two zeros included. -/
  | finite (negative : Bool) (size : Magnitude)
  deriving DecidableEq, Repr

namespace Format

variable (f : Format)

/-- The fraction field of a pattern. -/
def fractionOf (bits : Nat) : Nat := bits % Nat.pow 2 f.fraction

/-- The exponent field of a pattern. -/
def exponentOf (bits : Nat) : Nat :=
  bits / Nat.pow 2 f.fraction % Nat.pow 2 f.exponent

/-- Whether the sign bit of a pattern is set. -/
def isNegative (bits : Nat) : Bool :=
  bits / Nat.pow 2 (f.fraction + f.exponent) % 2 == 1

/-- The exponent field that infinities and NaNs have. -/
def topExponent : Nat := Nat.pow 2 f.exponent - 1

/-- The power of two that the numbers with the least exponent are scaled by. -/
def leastScale : Int := 2 - Nat.pow 2 (f.exponent - 1) - f.fraction

/-- What a bit pattern stands for. Exponent zero has no hidden bit and the scale of exponent one. -/
def read (bits : Nat) : Datum :=
  let frac := f.fractionOf bits
  let exp := f.exponentOf bits
  if exp = f.topExponent then
    if frac = 0 then .infinite (f.isNegative bits) else .nan
  else if exp = 0 then .finite (f.isNegative bits) ⟨frac, f.leastScale, false⟩
  else
    .finite (f.isNegative bits)
      ⟨Nat.pow 2 f.fraction + frac, f.leastScale + (exp - 1 : Nat), frac = 0 && 1 < exp⟩

/-- Whether a pattern is a NaN. -/
def isNaN (bits : Nat) : Bool :=
  f.exponentOf bits = f.topExponent && f.fractionOf bits != 0

/-- Whether a pattern is one of the two zeros. -/
def isZero (bits : Nat) : Bool :=
  f.exponentOf bits = 0 && f.fractionOf bits = 0

/-- Equality of numbers: no NaN equals anything, and the two zeros are equal. -/
def equal (a b : Nat) : Bool :=
  !f.isNaN a && !f.isNaN b && (a = b || f.isZero a && f.isZero b)

end Format

end LogHistory.Decimal
