import LogHistory.Proofs.Cursors
import Mathlib.Tactic.SplitIfs

/-!
# Where a cursor starts

A new cursor is set back by one interval before the present, so that its first window covers the
interval. The interval is taken from the total of nanoseconds, and what is left is an ordinary
instant; only an interval that does not lead out of a leap second leaves the present in it. Either
way the cursor does not come to stand after the present. That has to be shown, since in a leap
second the order of instants is not that of their totals: the end of a leap second has a greater
total than the start of the next second, which comes after it.

An interval of more milliseconds than fit in 64 bits with a sign counts as none, and one that leads
to before all instants is not taken. In both cases the cursor starts at the present.

## What is proved

* `Instant.exists_minus?`, `Instant.minus?_eq_none` — what taking a duration from an instant comes
  to, and when to nothing.
* `cursor_seeded_exact` — where a new cursor stands, and the first window that it asks for.
-/

namespace LogHistory

namespace Instant

variable {t : Instant} {d : Duration}

/-- The total of nanoseconds of the first instant. -/
def leastTotal : Int := -8334601228800 * 1000000000

/-- **A duration is taken exactly**, if it does not lead to before all instants. What is left comes
no later, and is an ordinary instant unless it lies in the same leap second. -/
theorem exists_minus? (h : leastTotal ≤ t.totalNanos - d.nanos) :
    ∃ t', t.minus? d = some t' ∧ t' ≤ t ∧ t'.totalNanos + d.nanos = t.totalNanos ∧
      (t'.isLeap = true → t'.secs = t.secs) := by
  obtain ⟨secs, nanos, hleast, hgreatest, hnanos⟩ := t
  simp only [minus?, leastTotal, totalNanos, isLeap, decide_eq_true_eq] at h ⊢
  split_ifs with hleap
  · -- The duration does not lead out of the leap second.
    refine ⟨_, rfl, .inr ⟨rfl, Nat.sub_le ..⟩, ?_, fun _ => rfl⟩
    simp only
    omega
  · rw [ofParts?, dif_pos (by omega)]
    refine ⟨_, rfl, ?_, ?_, fun hleap' => ?_⟩
    · simp only [le_def]
      omega
    · simp only
      omega
    · simp only at hleap'
      omega

theorem minus?_eq_none (h : ¬ leastTotal ≤ t.totalNanos - d.nanos) : t.minus? d = none := by
  have hleast := t.le_secs
  simp only [leastTotal, totalNanos] at h
  simp only [minus?, totalNanos, isLeap, decide_eq_true_eq]
  rw [if_neg (by omega), ofParts?, dif_neg (by omega)]

theorem minus?_zero (t : Instant) : t.minus? ⟨0⟩ = some t := by
  have hleast := t.le_secs
  have hrange : leastTotal ≤ t.totalNanos - (0 : Nat) := by
    simp only [leastTotal, totalNanos]
    omega
  obtain ⟨t', ht', hle, htotal, hleap⟩ := exists_minus? (d := ⟨0⟩) hrange
  rw [ht']
  obtain ⟨secs, nanos, hl, hg, hn⟩ := t
  obtain ⟨secs', nanos', hl', hg', hn'⟩ := t'
  simp only [totalNanos, le_def, isLeap, decide_eq_true_eq] at htotal hle hleap
  rw [Option.some.injEq, Instant.mk.injEq]
  omega

end Instant

namespace Cursor

/-- The interval has no more than 2^63 - 1 milliseconds and does not lead to before all instants. -/
def CanBeSetBack (interval : Duration) (now : Instant) : Prop :=
  interval.nanos ≤ 9223372036854775807 * 1000000 ∧
    Instant.leastTotal ≤ now.totalNanos - interval.nanos

variable {interval : Duration} {now : Instant}

theorem seeded_eq_of_canBeSetBack (h : CanBeSetBack interval now) :
    ∃ t, seeded interval now = ⟨t⟩ ∧ t ≤ now ∧ t.totalNanos + interval.nanos = now.totalNanos ∧
      (t.isLeap = true → t.secs = now.secs) := by
  obtain ⟨hfits, hrange⟩ := h
  obtain ⟨t, ht, hle, htotal, hleap⟩ := Instant.exists_minus? hrange
  refine ⟨t, ?_, hle, htotal, hleap⟩
  have hlongest : ¬ longestInterval.nanos < interval.nanos := Nat.not_lt.mpr hfits
  simp only [seeded, if_neg hlongest, ht, Option.getD_some]

theorem seeded_eq_of_not_canBeSetBack (h : ¬ CanBeSetBack interval now) :
    seeded interval now = ⟨now⟩ := by
  unfold seeded
  by_cases hlongest : longestInterval.nanos < interval.nanos
  · simp only [if_pos hlongest, Instant.minus?_zero, Option.getD_some]
  · have hrange : ¬ Instant.leastTotal ≤ now.totalNanos - interval.nanos := fun hrange =>
      h ⟨Nat.not_lt.mp hlongest, hrange⟩
    simp only [if_neg hlongest, Instant.minus?_eq_none hrange, Option.getD_none]

end Cursor

/-- **A new cursor stands exactly one interval before the present**, if that is in range, and else
at the present. It never stands after the present, so the first window that it asks for starts where
it stands and ends at the present. If the interval fits in 64 bits of milliseconds and does not lead
to before all instants, then the totals of nanoseconds differ by the interval, and the cursor stands
in a leap second only if the present is in the same. -/
theorem cursor_seeded_exact (interval : Duration) (now : Instant) :
    let cursor := Cursor.seeded interval now
    cursor.last ≤ now ∧ cursor.window now = (cursor.last, now) ∧
      (Cursor.CanBeSetBack interval now →
        cursor.last.totalNanos + interval.nanos = now.totalNanos ∧
          (cursor.last.isLeap = true → cursor.last.secs = now.secs)) ∧
      (¬ Cursor.CanBeSetBack interval now → cursor.last = now) := by
  intro cursor
  by_cases h : Cursor.CanBeSetBack interval now
  · obtain ⟨t, hcursor, hle, htotal, hleap⟩ := Cursor.seeded_eq_of_canBeSetBack h
    have hlast : cursor.last = t := congrArg Cursor.last hcursor
    rw [Cursor.window, hlast, max_eq_left hle]
    exact ⟨hle, rfl, fun _ => ⟨htotal, hleap⟩, fun hnot => absurd h hnot⟩
  · have hlast : cursor.last = now :=
      congrArg Cursor.last (Cursor.seeded_eq_of_not_canBeSetBack h)
    rw [Cursor.window, hlast, max_self]
    exact ⟨le_rfl, rfl, fun hcan => absurd hcan h, fun _ => rfl⟩

/-- An instant in the last two seconds of 2016, of which the second is followed by a leap second, or
in the first second of 2017. -/
def newYearInstant (secs : Fin 3) (nanos : Fin 2000000000) : Instant :=
  ⟨1483228798 + secs.val, nanos.val, by omega, by omega, nanos.isLt⟩

/-- Two seconds before the middle of the leap second is the middle of the second but one before, and
three tenths of a second before it lie in it. An interval that is too long is not taken, and nor is
one of three hundred thousand years. -/
theorem cursor_seeded_exact_leapSecond :
    let now := newYearInstant 1 1500000000
    ((Cursor.seeded ⟨2000000000⟩ now).last = newYearInstant 0 500000000 ∧
      (Cursor.seeded ⟨2000000000⟩ now).last.totalNanos + 2000000000 = now.totalNanos) ∧
      ((Cursor.seeded ⟨300000000⟩ now).last = newYearInstant 1 1200000000 ∧
        (Cursor.seeded ⟨300000000⟩ now).last.totalNanos + 300000000 = now.totalNanos) ∧
      (Cursor.seeded ⟨9223372036854775808000000⟩ now).last = now ∧
      (Cursor.seeded ⟨9500000000000000000000⟩ now).last = now := by
  intro now
  obtain ⟨-, -, hlong, -⟩ := cursor_seeded_exact ⟨2000000000⟩ now
  obtain ⟨-, -, hshort, -⟩ := cursor_seeded_exact ⟨300000000⟩ now
  obtain ⟨-, -, -, hendless⟩ := cursor_seeded_exact ⟨9223372036854775808000000⟩ now
  obtain ⟨-, -, -, hearly⟩ := cursor_seeded_exact ⟨9500000000000000000000⟩ now
  refine ⟨⟨by decide, ?_⟩, ⟨by decide, ?_⟩, ?_, ?_⟩
  · exact (hlong ⟨by decide, by decide⟩).1
  · exact (hshort ⟨by decide, by decide⟩).1
  · exact hendless fun h => absurd h.1 (by decide)
  · exact hearly fun h => absurd h.2 (by decide)

end LogHistory
