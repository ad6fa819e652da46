import LogHistory.LogRecord.Normal
import Mathlib.Tactic.SplitIfs

/-!
# Ticks and instants

The tick count of an instant is computed in 64-bit steps, each checked. Here it is compared with the
exact count over all integers, `Instant.ticks`: the steps give a count precisely when the exact one
is positive and below `2 ^ 63`, and then it is the exact one (`ofInstant?_eq_some_iff`). So no step
fails on an instant whose count fits. Back from a count one comes to the last whole tick
(`toInstant?_eq_wholeTick?`), which is an ordinary instant with the total of nanoseconds rounded
down (`exists_wholeTick?`).
-/

namespace LogHistory

namespace Ticks

theorem word?_eq_some_iff (n : Int) (w : Int64) :
    word? n = some w ↔ -9223372036854775808 ≤ n ∧ n < 9223372036854775808 ∧ w.toInt = n := by
  unfold word?
  constructor
  · intro h
    split_ifs at h with hn
    cases h
    exact ⟨hn.1, hn.2, Int64.toInt_ofInt_of_le hn.1 hn.2⟩
  · rintro ⟨hl, hu, hw⟩
    rw [if_pos ⟨hl, hu⟩, ← hw, Int64.ofInt_toInt]

/-- What the checked steps compute, without the checks: whole seconds, then the ticks within the
second, then the distance of the two epochs. -/
theorem ticks_eq (t : Instant) :
    t.ticks = t.secs * perSecond + (t.nanos / 100 : Nat) + unixEpoch := by
  unfold Instant.ticks Instant.totalNanos perSecond
  omega

/-- **The checked steps are exact**: they yield a count if and only if the exact count is positive
and fits in 64 bits, and then they yield that count. -/
theorem ofInstant?_eq_some_iff (t : Instant) (k : Int64) :
    ofInstant? t = some k ↔
      0 < t.ticks ∧ t.ticks < 9223372036854775808 ∧ k.toInt = t.ticks := by
  have hl := t.le_secs
  have hn := t.nanos_lt
  rw [ticks_eq]
  unfold ofInstant? perSecond unixEpoch
  simp only [Option.bind_eq_bind, Option.bind_eq_some_iff, word?_eq_some_iff]
  constructor
  · rintro ⟨whole, ⟨-, -, hw⟩, unix, ⟨-, -, hu⟩, ticks, ⟨-, hk, ht⟩, h⟩
    split_ifs at h with hpos
    cases h
    omega
  · rintro ⟨hpos, hlt, hk⟩
    refine ⟨Int64.ofInt (t.secs * 10000000), ⟨by omega, by omega, ?_⟩,
      Int64.ofInt (t.secs * 10000000 + (t.nanos / 100 : Nat)), ?_, k, ?_, ?_⟩
    · exact Int64.toInt_ofInt_of_le (by omega) (by omega)
    · rw [Int64.toInt_ofInt_of_le (by omega) (by omega)]
      exact ⟨by omega, by omega, Int64.toInt_ofInt_of_le (by omega) (by omega)⟩
    · rw [Int64.toInt_ofInt_of_le (by omega) (by omega)]
      omega
    · rw [if_pos (by omega)]

theorem toInstant?_eq_wholeTick? {t : Instant} {k : Int64} (hk : k.toInt = t.ticks)
    (hpos : 0 < t.ticks) : toInstant? k = t.wholeTick? := by
  have hunix : k.toInt - unixEpoch = t.totalNanos / 100 := by
    rw [hk, Instant.ticks]
    omega
  unfold toInstant? Instant.wholeTick?
  rw [if_neg (by omega)]
  simp only [hunix, perSecond]
  congr 1 <;> omega

theorem exists_toInstant? {k : Int64} (hpos : 0 < k.toInt) :
    ∃ t, toInstant? k = some t ∧ ofInstant? t = some k ∧ t.isWholeTick = true := by
  have hlt := k.toInt_lt
  unfold toInstant? Instant.ofParts? unixEpoch perSecond
  rw [if_neg (by omega)]
  simp only
  rw [dif_pos ⟨by omega, by omega, by omega⟩]
  refine ⟨_, rfl, ?_, ?_⟩
  · rw [ofInstant?_eq_some_iff, ticks_eq]
    unfold unixEpoch perSecond
    simp only
    omega
  · simp only [Instant.isWholeTick, Instant.isLeap, Bool.and_eq_true, Bool.not_eq_true',
      decide_eq_false_iff_not, decide_eq_true_eq]
    omega

end Ticks

namespace Instant

/-- An instant with a positive 64-bit tick count has a last whole tick: an ordinary instant, with
the total of nanoseconds rounded down to a multiple of 100. -/
theorem exists_wholeTick? {t : Instant} (hpos : 0 < t.ticks)
    (hlt : t.ticks < 9223372036854775808) :
    ∃ t', t.wholeTick? = some t' ∧ t'.nanos < 1000000000 ∧
      t'.totalNanos = t.totalNanos / 100 * 100 := by
  unfold ticks Ticks.unixEpoch at hpos hlt
  unfold wholeTick? ofParts?
  simp only
  rw [dif_pos ⟨by omega, by omega, by omega⟩]
  refine ⟨_, rfl, ?_, ?_⟩
  · simp only
    omega
  · rw [totalNanos]
    simp only
    omega

theorem wholeTick?_of_isWholeTick {t : Instant} (h : t.isWholeTick = true) :
    t.wholeTick? = some t := by
  obtain ⟨secs, nanos, hl, hu, hn⟩ := t
  simp only [isWholeTick, isLeap, Bool.and_eq_true, Bool.not_eq_true', decide_eq_false_iff_not,
    decide_eq_true_eq] at h
  have hs : (secs * 1000000000 + nanos) / 100 * 100 / 1000000000 = secs := by omega
  have hr : ((secs * 1000000000 + nanos) / 100 * 100 % 1000000000).toNat = nanos := by omega
  unfold wholeTick? ofParts? totalNanos
  simp only [hs, hr]
  rw [dif_pos ⟨hl, hu, hn⟩]

end Instant

end LogHistory
