import LogHistory.Collect.Cursor
import LogHistory.Collect.Window
import Mathlib.Order.Defs.LinearOrder

/-!
# Cursors and tilings

Instants are linearly ordered, those in leap seconds included, so a window holds what lies between
its ends and nothing else. A cursor asks for the window from where it stands to the present; once
this window is committed the cursor stands at the window's end, wherever the clock has been. So
windows that are committed one after another lie end to end: they tile the stretch between two
positions of the cursor (`Tiles`).

Two windows of a tiling have at most an end in common. An instant that is no end of a window lies in
just one of them, and one that is may lie in several, since a window may be a single instant.

## What is proved

* `last_commit_asks` — committing the window that was asked for moves the cursor to its end.
* `Tiles.within` — the windows of a tiling do not reach beyond it.
* `Tiles.exists_spans` — they leave nothing out, if there are any.
* `Tiles.countP_spans_eq_one` — they have nothing but ends in common.
-/

namespace LogHistory

/-! ### The order of instants -/

instance : LinearOrder Instant where
  le := (· ≤ ·)
  lt := (· < ·)
  max := max
  min a b := if a ≤ b then a else b
  le_refl a := .inr ⟨rfl, Nat.le_refl _⟩
  le_trans a b c := by
    simp only [Instant.le_def]
    omega
  lt_iff_le_not_ge a b := by
    simp only [Instant.le_def, Instant.lt_def]
    omega
  le_antisymm a b := by
    obtain ⟨secs, nanos, -, -, -⟩ := a
    obtain ⟨secs', nanos', -, -, -⟩ := b
    simp only [Instant.le_def, Instant.mk.injEq]
    omega
  le_total a b := by
    simp only [Instant.le_def]
    omega
  toDecidableLE := inferInstance
  max_def := Instant.max_def

/-! ### Cursors -/

namespace Cursor

/-- The window that a cursor asks for. -/
def asks (cursor : Cursor) (floor : UInt16) (now : Instant) : Window :=
  ⟨(cursor.window now).1, (cursor.window now).2, floor, le_max_right now cursor.last⟩

/-- **Committing the window that was asked for moves the cursor to its end.** -/
theorem last_commit_asks (cursor : Cursor) (floor : UInt16) (now : Instant) :
    (cursor.commit (cursor.asks floor now).stop).last = (cursor.asks floor now).stop := by
  unfold commit
  split_ifs with hlt
  · rfl
  · exact le_antisymm (cursor.asks floor now).start_le_stop (not_lt.mp hlt)

end Cursor

/-! ### Tilings -/

/-- The instant lies in the window, ends included. -/
def Window.Spans (w : Window) (t : Instant) : Prop := w.start ≤ t ∧ t ≤ w.stop

instance (w : Window) (t : Instant) : Decidable (w.Spans t) :=
  inferInstanceAs (Decidable (w.start ≤ t ∧ t ≤ w.stop))

/-- `Tiles first ws last`: the windows lie end to end from `first` to `last`. -/
inductive Tiles : Instant → List Window → Instant → Prop where
  /-- No window lies between an instant and itself. -/
  | nil (t : Instant) : Tiles t [] t
  /-- The other windows begin where the first one ends. -/
  | cons {first last : Instant} {w : Window} {ws : List Window} :
      w.start = first → Tiles w.stop ws last → Tiles first (w :: ws) last

namespace Tiles

variable {first last t : Instant} {ws : List Window}

theorem le (h : Tiles first ws last) : first ≤ last := by
  induction h with
  | nil t => exact le_rfl
  | @cons _ _ w _ hstart _ ih => exact hstart ▸ le_trans w.start_le_stop ih

theorem within (h : Tiles first ws last) {w : Window} (hw : w ∈ ws) :
    first ≤ w.start ∧ w.stop ≤ last := by
  induction h with
  | nil t => cases hw
  | @cons _ _ v _ hstart h ih =>
    subst hstart
    rcases List.mem_cons.mp hw with rfl | hw
    · exact ⟨le_rfl, h.le⟩
    · exact ⟨le_trans v.start_le_stop (ih hw).1, (ih hw).2⟩

theorem ne_nil (h : Tiles first ws last) (hlt : first < last) : ws ≠ [] := by
  rintro rfl
  cases h
  exact lt_irrefl _ hlt

/-- **A tiling leaves nothing out**, if it has any windows. -/
theorem exists_spans (h : Tiles first ws last) (hne : ws ≠ []) (hfirst : first ≤ t)
    (hlast : t ≤ last) : ∃ w ∈ ws, w.Spans t := by
  induction h with
  | nil t => exact absurd rfl hne
  | @cons _ _ w ws hstart h ih =>
    subst hstart
    rcases le_or_gt t w.stop with hstop | hstop
    · exact ⟨w, List.mem_cons_self, hfirst, hstop⟩
    · -- The instant lies after the first window, so there is another one.
      have hmore := h.ne_nil (lt_of_lt_of_le hstop hlast)
      obtain ⟨v, hv, hspans⟩ := ih hmore (le_of_lt hstop) hlast
      exact ⟨v, List.mem_cons_of_mem _ hv, hspans⟩

/-- **The windows of a tiling have nothing but ends in common.** -/
theorem countP_spans_eq_one (h : Tiles first ws last) (hne : ws ≠ []) (hfirst : first ≤ t)
    (hlast : t ≤ last) (hends : ∀ w ∈ ws, t ≠ w.start ∧ t ≠ w.stop) :
    ws.countP (fun w => decide (w.Spans t)) = 1 := by
  induction h with
  | nil t => exact absurd rfl hne
  | @cons _ _ w ws hstart h ih =>
    subst hstart
    obtain ⟨hw, hrest⟩ := List.forall_mem_cons.mp hends
    rw [List.countP_cons]
    rcases lt_or_gt_of_ne hw.2 with hlt | hgt
    · have hothers : ws.countP (fun w => decide (w.Spans t)) = 0 := by
        refine List.countP_eq_zero.mpr fun v hv hspans => ?_
        exact absurd (le_trans (h.within hv).1 (of_decide_eq_true hspans).1) (not_le.mpr hlt)
      have hspans : w.Spans t := ⟨hfirst, le_of_lt hlt⟩
      rw [hothers, if_pos (decide_eq_true hspans)]
    · have hmore := h.ne_nil (lt_of_lt_of_le hgt hlast)
      have hnot : ¬ w.Spans t := fun hspans => absurd hspans.2 (not_le.mpr hgt)
      rw [ih hmore (le_of_lt hgt) hlast hrest, if_neg (by simpa using hnot)]

end Tiles

end LogHistory
