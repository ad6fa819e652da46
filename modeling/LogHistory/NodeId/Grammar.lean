import LogHistory.NodeId.Text

/-!
# The grammar of identifiers

Which texts are identifiers, said without a parser: an optional namespace, `ns=` with a numeral and
a semicolon, then `i=` with a numeral or `s=` with any text. A numeral is one or more ASCII digits
with a value below a bound, after a plus sign if one likes.
-/

namespace LogHistory

/-- The value of a list of decimal digits. -/
def Numeral.digitsValue (ds : List Char) : Nat :=
  ds.foldl (fun n d => 10 * n + (d.toNat - 48)) 0

/-- `Spells bound cs n`: the characters are a numeral with the value `n`, which is below the bound.
-/
inductive Numeral.Spells (bound : Nat) : List Char → Nat → Prop where
  /-- Digits alone. -/
  | plain {ds : List Char} : ds ≠ [] → (∀ d ∈ ds, '0' ≤ d ∧ d ≤ '9') →
      Numeral.digitsValue ds < bound → Numeral.Spells bound ds (Numeral.digitsValue ds)
  /-- Digits after a plus sign. -/
  | signed {ds : List Char} : ds ≠ [] → (∀ d ∈ ds, '0' ≤ d ∧ d ≤ '9') →
      Numeral.digitsValue ds < bound → Numeral.Spells bound ('+' :: ds) (Numeral.digitsValue ds)

namespace NodeId

/-- `SpellsValue ns cs id`: the characters spell the identifier within the namespace. -/
inductive SpellsValue (ns : UInt16) : List Char → NodeId → Prop where
  /-- A number. -/
  | numeric {ds : List Char} {n : Nat} : Numeral.Spells UInt32.size ds n →
      SpellsValue ns ('i' :: '=' :: ds) (.numeric ns (UInt32.ofNat n))
  /-- A text. -/
  | text {cs : List Char} : SpellsValue ns ('s' :: '=' :: cs) (.text ns (String.ofList cs))

/-- `Spells cs id`: the characters spell the identifier. -/
inductive Spells : List Char → NodeId → Prop where
  /-- Without a namespace. -/
  | bare {cs : List Char} {id : NodeId} : SpellsValue 0 cs id → Spells cs id
  /-- With a namespace. -/
  | scoped {ds cs : List Char} {n : Nat} {id : NodeId} : Numeral.Spells UInt16.size ds n →
      SpellsValue (UInt16.ofNat n) cs id →
      Spells ('n' :: 's' :: '=' :: (ds ++ ';' :: cs)) id

end NodeId

end LogHistory
