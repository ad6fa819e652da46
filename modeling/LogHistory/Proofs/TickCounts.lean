import LogHistory.Proofs.Unwritable

/-!
# Tick counts are exact

A tick count stands for an instant, and an instant for the last whole tick. Both ways are computed
in 64-bit steps, and none of these steps decides anything: every positive count has its instant, and
an instant has a count just if the exact count over all integers, `Instant.ticks`, is positive and
fits in 64 bits with a sign. From a count to its instant and back one comes to the same count; from
an instant to its count and back one comes to the ordinary instant at the last whole tick.

On ordinary instants the order is that of their totals of nanoseconds, so counts never go back. They
may where leap seconds are involved: the end of a leap second comes before the second after it, and
its total is greater.

The steps of `Ticks.ofInstant?` are checked as they are taken. Those of `Ticks.toInstant?` are not,
so they are taken here once more with checks (`toInstantBySteps?`), and come to the same.

## What is proved

* `toInstant?_isSome_iff`, `toInstantBySteps?_eq` — every positive count has an instant, and no step
  on the way to it leaves 64 bits.
* `exists_ofInstant?_iff` — the instants that have a count.
* `toInstant?_eq_some_iff` — the instant that comes back is the ordinary one of the total.
* `ofInstant?_le_of_le` — on ordinary instants counts keep the order.
-/

namespace LogHistory

/-! ### Ordinary instants -/

namespace Instant

variable {s t : Instant}

theorem nanos_lt_of_not_isLeap (h : t.isLeap = false) : t.nanos < 1000000000 :=
  Nat.not_le.mp (of_decide_eq_false h)

theorem eq_of_totalNanos_eq (hs : s.isLeap = false) (ht : t.isLeap = false)
    (h : s.totalNanos = t.totalNanos) : s = t := by
  have hs' := nanos_lt_of_not_isLeap hs
  have ht' := nanos_lt_of_not_isLeap ht
  obtain ⟨secs, nanos, _, _, _⟩ := s
  obtain ⟨secs', nanos', _, _, _⟩ := t
  simp only [totalNanos] at h hs' ht'
  rw [Instant.mk.injEq]
  omega

theorem totalNanos_le_of_le (hs : s.isLeap = false) (h : s ≤ t) : s.totalNanos ≤ t.totalNanos := by
  have hs' := nanos_lt_of_not_isLeap hs
  rw [le_def] at h
  unfold totalNanos
  omega

end Instant

namespace Ticks

/-! ### From counts to instants -/

/-- The instant of a tick count in 64-bit steps, each checked: the distance of the two epochs, then
the whole seconds, then the nanoseconds within the second. -/
def toInstantBySteps? (ticks : Int64) : Option Instant :=
  if ticks.toInt ≤ 0 then none
  else do
    let unix ← word? (ticks.toInt - unixEpoch)
    let secs ← word? (unix.toInt / perSecond)
    let nanos ← word? (unix.toInt % perSecond * 100)
    Instant.ofParts? secs.toInt nanos.toInt.toNat

theorem exists_word? {n : Int} (hl : -9223372036854775808 ≤ n) (hu : n < 9223372036854775808) :
    ∃ w, word? n = some w ∧ w.toInt = n :=
  ⟨.ofInt n, if_pos ⟨hl, hu⟩, Int64.toInt_ofInt_of_le hl hu⟩

/-- **No step on the way to an instant leaves 64 bits.** -/
theorem toInstantBySteps?_eq (k : Int64) : toInstantBySteps? k = toInstant? k := by
  have hlt := k.toInt_lt
  unfold toInstantBySteps? toInstant?
  split_ifs with hpos
  · rfl
  · obtain ⟨unix, hunix, hunix'⟩ := exists_word? (n := k.toInt - unixEpoch)
      (by unfold unixEpoch; omega) (by unfold unixEpoch; omega)
    obtain ⟨secs, hsecs, hsecs'⟩ := exists_word? (n := unix.toInt / perSecond)
      (by unfold unixEpoch at hunix'; unfold perSecond; omega)
      (by unfold unixEpoch at hunix'; unfold perSecond; omega)
    obtain ⟨nanos, hnanos, hnanos'⟩ := exists_word? (n := unix.toInt % perSecond * 100)
      (by unfold perSecond; omega) (by unfold perSecond; omega)
    have hparts : nanos.toInt.toNat = (unix.toInt % perSecond).toNat * 100 := by
      rw [hnanos']
      unfold perSecond
      omega
    simp only [hunix, hsecs, hnanos, Option.bind_eq_bind, Option.bind_some, hparts]
    rw [hsecs', hunix']

theorem toInstant?_isSome_iff (k : Int64) : (toInstant? k).isSome ↔ 0 < k.toInt := by
  constructor
  · intro h
    refine Int.not_le.mp fun hle => ?_
    rw [toInstant?, if_pos hle] at h
    cases h
  · intro hpos
    obtain ⟨t, ht, -⟩ := exists_toInstant? hpos
    rw [ht]
    rfl

theorem ofInstant?_of_toInstant? {k : Int64} {t : Instant} (h : toInstant? k = some t) :
    ofInstant? t = some k := by
  have hpos : 0 < k.toInt := (toInstant?_isSome_iff k).mp (by rw [h]; rfl)
  obtain ⟨t', ht', hk, -⟩ := exists_toInstant? hpos
  obtain rfl : t' = t := Option.some.inj (ht'.symm.trans h)
  exact hk

/-! ### From instants to counts -/

variable {s t : Instant} {j k : Int64}

theorem ofInstant?_eq_some_iff_hasTicks :
    ofInstant? t = some k ↔ t.HasTicks ∧ k.toInt = t.ticks := by
  rw [ofInstant?_eq_some_iff, Instant.HasTicks]
  omega

theorem exists_ofInstant?_iff : (∃ k, ofInstant? t = some k) ↔ t.HasTicks := by
  constructor
  · rintro ⟨k, hk⟩
    exact (ofInstant?_eq_some_iff_hasTicks.mp hk).1
  · intro h
    obtain ⟨hpos, hle⟩ := h
    obtain ⟨k, -, hk⟩ := exists_word? (n := t.ticks) (by omega) (by omega)
    exact ⟨k, ofInstant?_eq_some_iff_hasTicks.mpr ⟨⟨hpos, hle⟩, hk⟩⟩

/-- **The instant that comes back** is the ordinary one whose total of nanoseconds is rounded down
to a multiple of 100. -/
theorem toInstant?_eq_some_iff (h : ofInstant? t = some k) (t' : Instant) :
    toInstant? k = some t' ↔ t'.isLeap = false ∧ t'.totalNanos = t.totalNanos / 100 * 100 := by
  obtain ⟨hpos, hlt, hk⟩ := (ofInstant?_eq_some_iff t k).mp h
  obtain ⟨back, hback, hnanos, htotal⟩ := Instant.exists_wholeTick? hpos hlt
  have hleap : back.isLeap = false := decide_eq_false (Nat.not_le.mpr hnanos)
  rw [toInstant?_eq_wholeTick? hk hpos, hback, Option.some.injEq]
  constructor
  · rintro rfl
    exact ⟨hleap, htotal⟩
  · rintro ⟨hleap', htotal'⟩
    exact Instant.eq_of_totalNanos_eq hleap hleap' (htotal.trans htotal'.symm)

theorem ofInstant?_le_of_le (hs : s.isLeap = false) (hle : s ≤ t) (hj : ofInstant? s = some j)
    (hk : ofInstant? t = some k) : j ≤ k := by
  have htotal := Instant.totalNanos_le_of_le hs hle
  rw [Int64.le_iff_toInt_le, (ofInstant?_eq_some_iff_hasTicks.mp hj).2,
    (ofInstant?_eq_some_iff_hasTicks.mp hk).2, Instant.ticks, Instant.ticks]
  omega

end Ticks

open Ticks in
/-- **Tick counts are exact.** Just the positive counts have an instant, no step on the way to it
leaves 64 bits, and the count of this instant is the count that it came from. An instant has a count
if and only if its exact count is positive and fits in 64 bits with a sign, and it is that count;
any other time is out of range when it is encoded. What comes back from the count of an instant is
the ordinary instant whose total of nanoseconds is the instant's, rounded down to a multiple of 100.
Of two ordinary instants with counts, the one that comes no later has no greater count. -/
theorem tick_counts_exact :
    (∀ k : Int64, ((toInstant? k).isSome ↔ 0 < k.toInt) ∧ toInstantBySteps? k = toInstant? k ∧
      ∀ t, toInstant? k = some t → ofInstant? t = some k) ∧
    (∀ t : Instant, ((∃ k, ofInstant? t = some k) ↔ t.HasTicks) ∧
      (LogRecord.encodeTime (some t) = .error (.timeOutOfRange t) ↔ ¬ t.HasTicks) ∧
      ∀ k, ofInstant? t = some k → k.toInt = t.ticks ∧
        LogRecord.encodeTime (some t) = .ok (Write.uint64 k.toUInt64) ∧
        ∀ t', toInstant? k = some t' ↔
          t'.isLeap = false ∧ t'.totalNanos = t.totalNanos / 100 * 100) ∧
    ∀ (s t : Instant) (j k : Int64), s.isLeap = false → t.isLeap = false → s ≤ t →
      ofInstant? s = some j → ofInstant? t = some k → j ≤ k := by
  refine ⟨fun k => ⟨toInstant?_isSome_iff k, toInstantBySteps?_eq k,
    fun t => ofInstant?_of_toInstant?⟩, fun t => ⟨exists_ofInstant?_iff, ?_, fun k hk => ⟨?_, ?_,
    toInstant?_eq_some_iff hk⟩⟩, fun s t j k hs _ => ofInstant?_le_of_le hs⟩
  · rw [LogRecord.encodeTime_eq_error_iff]
    simp
  · exact (ofInstant?_eq_some_iff_hasTicks.mp hk).2
  · rw [LogRecord.encodeTime, hk]

/-- The leap second at the end of 2016 has a count, and comes back as the next second, with 99 ns
rounded off; its count is no less than that of the epoch. The last 100 ns of 1600 have none. -/
theorem tick_counts_exact_leapSecond :
    (∃ t back, LogRecord.leapRecord.time = some t ∧ t.isLeap = true ∧
      Ticks.ofInstant? t = some 131277024005000001 ∧
      Ticks.toInstant? 131277024005000001 = some back ∧
      back.secs = 1483228800 ∧ back.nanos = 500000100 ∧
      Ticks.ofInstant? .epoch = some 116444736000000000 ∧
      (116444736000000000 : Int64) ≤ 131277024005000001) ∧
    LogRecord.encodeTime (some LogRecord.earlyInstant) =
      .error (.timeOutOfRange LogRecord.earlyInstant) := by
  obtain ⟨hcounts, hinstants, hmono⟩ := tick_counts_exact
  obtain ⟨t, ht⟩ : ∃ t, LogRecord.leapRecord.time = some t := ⟨_, rfl⟩
  obtain ⟨back, hback⟩ : ∃ back, Ticks.toInstant? 131277024005000001 = some back := ⟨_, rfl⟩
  have hk : Ticks.ofInstant? t = some 131277024005000001 := by
    obtain rfl := Option.some.inj ht
    rfl
  have hepoch : Ticks.ofInstant? .epoch = some 116444736000000000 := rfl
  obtain ⟨hleap, -⟩ := (((hinstants t).2.2 _ hk).2.2 back).mp hback
  have hagain := (hcounts 131277024005000001).2.2 back hback
  have hle : Instant.epoch ≤ back := by
    obtain rfl := Option.some.inj hback
    decide
  refine ⟨⟨t, back, ht, ?_, hk, hback, ?_, ?_, hepoch,
    hmono _ _ _ _ rfl hleap hle hepoch hagain⟩, (hinstants _).2.1.mpr ?_⟩
  · obtain rfl := Option.some.inj ht
    rfl
  · obtain rfl := Option.some.inj hback
    rfl
  · obtain rfl := Option.some.inj hback
    rfl
  · simp [Instant.HasTicks, Instant.ticks, Instant.totalNanos, LogRecord.earlyInstant,
      Ticks.unixEpoch]

end LogHistory
