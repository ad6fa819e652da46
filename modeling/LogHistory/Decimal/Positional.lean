import LogHistory.Decimal.Shortest

/-!
# Numbers in positional notation

A floating-point number is shown with its shortest digits and never an exponent: zeros fill up to
the point on either side, and a whole number has neither point nor fraction. A zero keeps its sign,
a NaN shows none.
-/

namespace LogHistory.Decimal

/-- The digits of a decimal with the point at its place. -/
def Digits.positional (d : Digits) : List Char :=
  let ds := Nat.toDigits 10 d.digits
  if 0 ≤ d.scale then ds ++ List.replicate d.scale.toNat '0'
  else
    let places := (-d.scale).toNat
    if places < ds.length then ds.take (ds.length - places) ++ '.' :: ds.drop (ds.length - places)
    else '0' :: '.' :: (List.replicate (places - ds.length) '0' ++ ds)

/-- A minus sign for what is negative. -/
def sign (negative : Bool) : String := if negative then "-" else ""

/-- How a number is shown. -/
def Datum.text : Datum → String
  | .nan => "NaN"
  | .infinite negative => sign negative ++ "inf"
  | .finite negative size =>
    sign negative ++ (if size.m = 0 then "0" else String.ofList size.shortest.positional)

/-- The text of a floating-point number given by its bits. -/
def Format.text (f : Format) (bits : Nat) : String := (f.read bits).text

end LogHistory.Decimal
