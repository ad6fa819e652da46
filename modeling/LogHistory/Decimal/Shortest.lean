import LogHistory.Decimal.Binary

/-!
# Shortest decimal

The shortest decimal of a floating-point number is the one with the fewest digits that reads back as
the number; of two of that length it is the nearer one, and of two equally near the greater.

## The model

A decimal reads back if it lies in the interval of reals that round to the number: half way to
either neighbour, ends included exactly when `m` is even, since a tie goes to the even neighbour.
`Magnitude.onGrid?` looks at the multiples of one power of ten. If any of them lies in the interval
then one of the two next to the number does, so only these are tried. `Magnitude.shortest` goes from
the coarsest grid to finer ones and stops at the first that has a point in the interval; it is the
grid of the fewest digits. All arithmetic is on whole numbers, in quarters of the number's last
place.
-/

namespace LogHistory.Decimal

/-- A decimal `digits * 10 ^ scale`. -/
structure Digits where
  /-- The digits, read as one number. -/
  digits : Nat
  /-- The power of ten they are scaled by. -/
  scale : Int
  deriving DecidableEq, Repr

namespace Magnitude

variable (v : Magnitude)

/-- The lower end of the interval, in quarters of the last place. -/
def low : Nat := 4 * v.m - (if v.narrow then 1 else 2)

/-- The upper end of the interval, in quarters of the last place. -/
def high : Nat := 4 * v.m + 2

/-- A quarter of the last place as a fraction of `10 ^ k`: the numerator. -/
def numerator (k : Int) : Nat := Nat.pow 2 (v.q - 2).toNat * Nat.pow 10 (-k).toNat

/-- A quarter of the last place as a fraction of `10 ^ k`: the denominator. -/
def denominator (k : Int) : Nat := Nat.pow 2 (2 - v.q).toNat * Nat.pow 10 k.toNat

/-- Whether `d * 10 ^ k` rounds to the number. -/
def readsBack (k : Int) (d : Nat) : Bool :=
  let point := d * v.denominator k
  let lo := v.low * v.numerator k
  let hi := v.high * v.numerator k
  if v.m % 2 = 0 then lo ≤ point && point ≤ hi else lo < point && point < hi

/-- The greatest `d` with `d * 10 ^ k` at most the number. -/
def below (k : Int) : Nat := 4 * v.m * v.numerator k / v.denominator k

/-- Whether the number is at least as near to the point above it as to the one below. -/
def isNearerAbove (k : Int) : Bool :=
  v.denominator k ≤ 2 * (4 * v.m * v.numerator k % v.denominator k)

/-- The multiple of `10 ^ k` nearest to the number, among those that read back. -/
def onGrid? (k : Int) : Option Nat :=
  let d := v.below k
  if v.readsBack k d then
    if v.readsBack k (d + 1) && v.isNearerAbove k then some (d + 1) else some d
  else if v.readsBack k (d + 1) then some (d + 1)
  else none

/-- Tries grids from `10 ^ k` down, at most `n` of them before the last. -/
def search : Nat → Int → Digits
  | 0, k => ⟨v.below k, k⟩
  | n + 1, k =>
    match v.onGrid? k with
    | some d => ⟨d, k⟩
    | none => search n (k - 1)

/-- A power of ten that the number does not reach, from the count of its bits: ten is at least eight
and at most sixteen. -/
def ceiling : Int :=
  let bits := (Nat.log2 v.m : Int) + 1 + v.q
  if 0 < bits then bits / 3 + 1 else -(-bits / 4)

/-- The shortest decimal of a number that is not zero. On the grid of its own last place every
number is a point, so the search always ends with a hit. -/
def shortest : Digits :=
  v.search (v.ceiling - min v.q 0).toNat v.ceiling

end Magnitude

end LogHistory.Decimal
