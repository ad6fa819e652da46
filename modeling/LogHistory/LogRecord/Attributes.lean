import LogHistory.Scalar.Basic

/-!
# Attributes

The additional data of a record: values by name, in the order in which the names first came. Giving
a name another value leaves it in its place.
-/

namespace LogHistory

namespace Attributes

/-- Puts a value in place of the one the name has, or at the end if it has none. -/
def put (key : String) (value : Scalar) : List (String × Scalar) → List (String × Scalar)
  | [] => [(key, value)]
  | e :: es => if e.1 = key then (key, value) :: es else e :: put key value es

theorem map_fst_put (key : String) (value : Scalar) (es : List (String × Scalar)) :
    (put key value es).map Prod.fst =
      if key ∈ es.map Prod.fst then es.map Prod.fst else es.map Prod.fst ++ [key] := by
  induction es with
  | nil => simp [put]
  | cons e es ih =>
    by_cases h : e.1 = key
    · simp [put, h]
    · have h' : ¬ key = e.1 := fun hk => h hk.symm
      simp only [put, h, if_false, List.map_cons, List.mem_cons, h', false_or, ih]
      split <;> simp

theorem nodup_put {key : String} {value : Scalar} {es : List (String × Scalar)}
    (h : (es.map Prod.fst).Nodup) : ((put key value es).map Prod.fst).Nodup := by
  rw [map_fst_put]
  split
  · exact h
  · next hk =>
    rw [List.nodup_append]
    refine ⟨h, by simp, ?_⟩
    intro a ha b hb hab
    simp only [List.mem_singleton] at hb
    subst hb
    exact hk (hab ▸ ha)

end Attributes

/-- Values by name, each name once. -/
structure Attributes where
  /-- The names with their values, in order. -/
  entries : List (String × Scalar)
  /-- No name occurs twice. -/
  nodup : (entries.map Prod.fst).Nodup
  deriving DecidableEq, Repr

namespace Attributes

/-- No attributes. -/
def empty : Attributes := ⟨[], List.nodup_nil⟩

instance : Inhabited Attributes := ⟨empty⟩

/-- How many there are. -/
def size (a : Attributes) : Nat := a.entries.length

/-- The value of a name. -/
def get? (a : Attributes) (key : String) : Option Scalar := a.entries.lookup key

/-- Gives a name a value. -/
def insert (a : Attributes) (key : String) (value : Scalar) : Attributes :=
  ⟨put key value a.entries, nodup_put a.nodup⟩

/-- The attributes that arise when names are given values one after another. -/
def ofList (es : List (String × Scalar)) : Attributes :=
  es.foldl (fun a e => a.insert e.1 e.2) empty

/-- The attributes of a list in which some values have no name; these are left out. -/
def ofNamed (es : List (Option String × Scalar)) : Attributes :=
  ofList (es.filterMap fun e => e.1.map fun key => (key, e.2))

/-- Equality of attributes without regard to their order, values compared by `Scalar.same`. -/
def same (a b : Attributes) : Bool :=
  a.size = b.size && a.entries.all fun e => (b.get? e.1).any (e.2.same ·)

end Attributes

end LogHistory
