/-!
# Instants

An instant is a count of seconds since 1970-01-01 00:00 UTC, possibly negative, and nanoseconds
within the second. From 10^9 nanoseconds on it lies in a leap second, which follows the second it is
counted in. The seconds are those of the years -262143 to 262142.

Instants are ordered by seconds, then nanoseconds. For ordinary instants that is the order of their
total nanoseconds; an instant in a leap second comes before the next second although its total may
be greater.
-/

namespace LogHistory

/-- A point in time. -/
structure Instant where
  /-- Seconds since the epoch. -/
  secs : Int
  /-- Nanoseconds within the second; 10^9 and more are a leap second. -/
  nanos : Nat
  /-- No instant lies before the first second of the year -262143. -/
  le_secs : -8334601228800 ≤ secs
  /-- No instant lies after the last second of the year 262142. -/
  secs_le : secs ≤ 8210266876799
  /-- A second and its leap second have two thousand million nanoseconds. -/
  nanos_lt : nanos < 2000000000
  deriving DecidableEq, Repr

namespace Instant

/-- The instant with the given parts, if they are in range. -/
def ofParts? (secs : Int) (nanos : Nat) : Option Instant :=
  if h : -8334601228800 ≤ secs ∧ secs ≤ 8210266876799 ∧ nanos < 2000000000 then
    some ⟨secs, nanos, h.1, h.2.1, h.2.2⟩
  else none

/-- The first instant of 1970. -/
def epoch : Instant := ⟨0, 0, by decide, by decide, by decide⟩

/-- Nanoseconds since the epoch. A leap second overlaps with the second after it. -/
def totalNanos (t : Instant) : Int := t.secs * 1000000000 + t.nanos

/-- Whether the instant lies in a leap second. -/
def isLeap (t : Instant) : Bool := 1000000000 ≤ t.nanos

instance : LE Instant where
  le a b := a.secs < b.secs ∨ a.secs = b.secs ∧ a.nanos ≤ b.nanos

instance : LT Instant where
  lt a b := a.secs < b.secs ∨ a.secs = b.secs ∧ a.nanos < b.nanos

theorem le_def (a b : Instant) :
    a ≤ b ↔ a.secs < b.secs ∨ a.secs = b.secs ∧ a.nanos ≤ b.nanos := Iff.rfl

theorem lt_def (a b : Instant) :
    a < b ↔ a.secs < b.secs ∨ a.secs = b.secs ∧ a.nanos < b.nanos := Iff.rfl

instance (a b : Instant) : Decidable (a ≤ b) := decidable_of_iff _ (le_def a b).symm

instance (a b : Instant) : Decidable (a < b) := decidable_of_iff _ (lt_def a b).symm

/-- The later of two instants. -/
instance : Max Instant where
  max a b := if a ≤ b then b else a

theorem max_def (a b : Instant) : max a b = if a ≤ b then b else a := rfl

end Instant

end LogHistory
