/-!
# Numerals

Whole numbers as text. Reading is the strict form used in identifiers: an optional plus sign, then
one or more ASCII digits, whose value may not pass a bound. Writing pads with zeros on the left.
-/

namespace LogHistory.Numeral

/-- The value of an ASCII digit. -/
def digit? (c : Char) : Option Nat :=
  if '0' ≤ c ∧ c ≤ '9' then some (c.toNat - 48) else none

/-- The value of a run of digits that follows a number already read. -/
def valueFrom : Nat → List Char → Option Nat
  | n, [] => some n
  | n, c :: cs => (digit? c).bind fun d => valueFrom (10 * n + d) cs

/-- The value of one or more digits. -/
def value? : List Char → Option Nat
  | [] => none
  | cs => valueFrom 0 cs

/-- A numeral without the plus sign it may start with. -/
def unsigned : List Char → List Char
  | '+' :: cs => cs
  | cs => cs

/-- Reads a numeral whose value is below the bound. -/
def parse? (bound : Nat) (cs : List Char) : Option Nat :=
  (value? (unsigned cs)).filter (· < bound)

/-- A text filled up with zeros on the left to the given length. -/
def padLeft (width : Nat) (digits : List Char) : List Char :=
  List.replicate (width - digits.length) '0' ++ digits

/-- A number in decimal, with zeros on the left up to the given length. -/
def padded (width n : Nat) : String :=
  String.ofList (padLeft width (Nat.toDigits 10 n))

/-- A number in uppercase hexadecimal, with zeros on the left up to the given length. -/
def paddedHex (width n : Nat) : String :=
  String.ofList (padLeft width ((Nat.toDigits 16 n).map Char.toUpper))

end LogHistory.Numeral
