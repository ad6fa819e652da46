import LogHistory.Proofs.Seeding
import Mathlib.Order.Bounds.Basic
import Mathlib.Order.MinMax

/-!
# Runs of a cursor

A cursor is asked for windows and told of what has been collected, in any order and at any readings
of the clock. Asking leaves it as it is; a commit moves it on to the instant that is committed, or
not at all. So it always stands at the latest of the instants where it started and that have been
committed, and it makes no difference in which order they were.

If each commit is of the end of the window that was asked for last (`Cursor.InTurn`), then no
stretch is left out. A window may be dropped for the next one, which starts at the same instant and
takes its place; and a window may be committed again, which changes nothing. Of the windows those
that are committed lie end to end from where the cursor started to where it stands.

Nothing is said about who asks and commits, or when. A cycle of a collector asks once and commits at
most once, so its runs are in turn.

## What is proved

* `Cursor.isGreatest_run` — the cursor stands at the latest of all commits.
* `Cursor.asked_append` — every window starts where the cursor stands.
* `Cursor.tiles_committed` — the windows that are committed in turn lie end to end.
* `Cursor.stop_mem_ends`, `Cursor.exists_committed` — they are those whose ends are committed.
* `cursor_runs_exact` — all of this for any run.
-/

namespace LogHistory

namespace Cursor

/-- What is done with a cursor. -/
inductive Act where
  /-- It is asked for the window up to what the clock shows. -/
  | window (now : Instant)
  /-- It is told that everything up to an instant has been collected. -/
  | commit (stop : Instant)

/-- The cursor after an act. -/
def after (cursor : Cursor) : Act → Cursor
  | .window _ => cursor
  | .commit stop => cursor.commit stop

/-- The cursor after a run of acts. -/
def run (cursor : Cursor) (acts : List Act) : Cursor := acts.foldl after cursor

/-- The instants that are committed in a run. -/
def ends : List Act → List Instant
  | [] => []
  | .window _ :: acts => ends acts
  | .commit stop :: acts => stop :: ends acts

/-- The windows that are asked for in a run, with this least severity. -/
def asked (floor : UInt16) : Cursor → List Act → List Window
  | _, [] => []
  | cursor, .window now :: acts => cursor.asks floor now :: asked floor cursor acts
  | cursor, .commit stop :: acts => asked floor (cursor.commit stop) acts

/-- Each commit is of the end of the latest window, which is `latest` before the run has any. -/
def InTurn : Cursor → Option Instant → List Act → Prop
  | _, _, [] => True
  | cursor, _, .window now :: acts => InTurn cursor (some (cursor.window now).2) acts
  | cursor, latest, .commit stop :: acts =>
    latest = some stop ∧ InTurn (cursor.commit stop) latest acts

/-- The windows that are committed in a run whose commits are in turn, each once. `pending` is the
window that has been asked for before the run and not been committed. -/
def committed (floor : UInt16) : Cursor → Option Window → List Act → List Window
  | _, _, [] => []
  | cursor, _, .window now :: acts => committed floor cursor (some (cursor.asks floor now)) acts
  | cursor, pending, .commit stop :: acts =>
    pending.toList ++ committed floor (cursor.commit stop) none acts

variable {cursor : Cursor} {acts : List Act}

/-! ### Positions -/

theorem last_commit (cursor : Cursor) (stop : Instant) :
    (cursor.commit stop).last = max cursor.last stop := by
  unfold commit
  split_ifs with hlt
  · exact (max_eq_right (le_of_lt hlt)).symm
  · exact (max_eq_left (not_lt.mp hlt)).symm

theorem run_append (cursor : Cursor) (acts more : List Act) :
    cursor.run (acts ++ more) = (cursor.run acts).run more := by
  rw [run, run, run, List.foldl_append]

/-- **The cursor stands at the latest of all commits**, or where it started. -/
theorem isGreatest_run (cursor : Cursor) (acts : List Act) :
    IsGreatest {t | t = cursor.last ∨ t ∈ ends acts} (cursor.run acts).last := by
  induction acts generalizing cursor with
  | nil => exact ⟨.inl rfl, fun t ht => ht.elim (fun h => h ▸ le_rfl) nofun⟩
  | cons act acts ih =>
    cases act with
    | window now => exact ih cursor
    | commit stop =>
      obtain ⟨hmem, hupper⟩ := ih (cursor.commit stop)
      rw [last_commit] at hmem hupper
      have hmax : max cursor.last stop ≤ ((cursor.commit stop).run acts).last := hupper (.inl rfl)
      constructor
      · rcases hmem with hmem | hmem
        · rcases max_choice cursor.last stop with h | h
          · exact .inl (hmem.trans h)
          · exact .inr (List.mem_cons.mpr (.inl (hmem.trans h)))
        · exact .inr (List.mem_cons_of_mem stop hmem)
      · rintro t (rfl | ht)
        · exact le_trans (le_max_left cursor.last stop) hmax
        · rcases List.mem_cons.mp ht with rfl | ht
          · exact le_trans (le_max_right cursor.last t) hmax
          · exact hupper (.inr ht)

theorem last_le_last_run (cursor : Cursor) (acts : List Act) :
    cursor.last ≤ (cursor.run acts).last :=
  (cursor.isGreatest_run acts).2 (.inl rfl)

theorem run_eq_of_perm {acts' : List Act} (h : (ends acts').Perm (ends acts)) :
    cursor.run acts' = cursor.run acts := by
  have hsame : {t | t = cursor.last ∨ t ∈ ends acts'} = {t | t = cursor.last ∨ t ∈ ends acts} := by
    simp only [h.mem_iff]
  have hgreatest := cursor.isGreatest_run acts'
  rw [hsame] at hgreatest
  have hlast := hgreatest.unique (cursor.isGreatest_run acts)
  exact congrArg Cursor.mk hlast

/-! ### Windows -/

theorem asked_append (floor : UInt16) (cursor : Cursor) (acts more : List Act) :
    cursor.asked floor (acts ++ more) =
      cursor.asked floor acts ++ (cursor.run acts).asked floor more := by
  induction acts generalizing cursor with
  | nil => rfl
  | cons act acts ih =>
    cases act with
    | window now =>
      rw [List.cons_append, asked, asked, ih cursor]
      rfl
    | commit stop =>
      rw [List.cons_append, asked, asked, ih (cursor.commit stop)]
      rfl

theorem committed_sublist (floor : UInt16) (cursor : Cursor) (pending : Option Window)
    (acts : List Act) :
    (cursor.committed floor pending acts).Sublist (pending.toList ++ cursor.asked floor acts) := by
  induction acts generalizing cursor pending with
  | nil => exact List.nil_sublist _
  | cons act acts ih =>
    cases act with
    | window now =>
      exact (ih cursor (some (cursor.asks floor now))).trans (List.sublist_append_right ..)
    | commit stop => exact (ih (cursor.commit stop) none).append_left pending.toList

/-- Where a cursor stands between its windows: the latest one ends at `latest`, and starts here if
it has not been committed; if it has, then it ends here. -/
structure Stands (cursor : Cursor) (latest : Option Instant) (pending : Option Window) : Prop where
  /-- A window that has not been committed is the latest, and starts here. -/
  start (w : Window) : pending = some w → w.start = cursor.last ∧ latest = some w.stop
  /-- A window that has been committed ends here. -/
  stop (t : Instant) : pending = none → latest = some t → t = cursor.last

namespace Stands

variable {latest : Option Instant} {pending : Option Window} {w : Window} {stop : Instant}

/-- A window that has not been committed leads from where the cursor stands to the latest end. -/
theorem of_pending (h : cursor.Stands latest (some w)) (hlatest : latest = some stop) :
    w.start = cursor.last ∧ w.stop = stop := by
  obtain ⟨hstart, hstop⟩ := h.start w rfl
  exact ⟨hstart, Option.some.inj (hstop.symm.trans hlatest)⟩

theorem fresh (cursor : Cursor) : cursor.Stands none none := ⟨by simp, by simp⟩

theorem asks (floor : UInt16) (cursor : Cursor) (now : Instant) :
    cursor.Stands (some (cursor.window now).2) (some (cursor.asks floor now)) := by
  refine ⟨fun w hw => ?_, by simp⟩
  obtain rfl := Option.some.inj hw
  exact ⟨rfl, rfl⟩

theorem last_commit_eq (h : cursor.Stands latest pending) (hlatest : latest = some stop) :
    (cursor.commit stop).last = stop := by
  rw [Cursor.last_commit]
  cases pending with
  | none => rw [h.stop stop rfl hlatest, max_self]
  | some w =>
    obtain ⟨hstart, rfl⟩ := h.of_pending hlatest
    exact max_eq_right (hstart ▸ w.start_le_stop)

theorem commit (h : cursor.Stands latest pending) (hlatest : latest = some stop) :
    (cursor.commit stop).Stands latest none := by
  refine ⟨by simp, fun t _ ht => ?_⟩
  cases hlatest.symm.trans ht
  exact (h.last_commit_eq hlatest).symm

end Stands

variable {latest : Option Instant} {pending : Option Window}

/-- **The windows that are committed in turn lie end to end.** -/
theorem tiles_committed (floor : UInt16) (hstands : cursor.Stands latest pending)
    (hturn : cursor.InTurn latest acts) :
    Tiles cursor.last (cursor.committed floor pending acts) (cursor.run acts).last := by
  induction acts generalizing cursor latest pending with
  | nil => exact .nil _
  | cons act acts ih =>
    cases act with
    | window now => exact ih (.asks floor cursor now) hturn
    | commit stop =>
      obtain ⟨hlatest, hturn⟩ := hturn
      have hlater := ih (hstands.commit hlatest) hturn
      rw [hstands.last_commit_eq hlatest] at hlater
      cases pending with
      | none => exact hstands.stop stop rfl hlatest ▸ hlater
      | some w =>
        obtain ⟨hstart, rfl⟩ := hstands.of_pending hlatest
        exact .cons hstart hlater

theorem stop_mem_ends {floor : UInt16} {w : Window} (hstands : cursor.Stands latest pending)
    (hturn : cursor.InTurn latest acts) (hw : w ∈ cursor.committed floor pending acts) :
    w.stop ∈ ends acts := by
  induction acts generalizing cursor latest pending with
  | nil => cases hw
  | cons act acts ih =>
    cases act with
    | window now => exact ih (.asks floor cursor now) hturn hw
    | commit stop =>
      obtain ⟨hlatest, hturn⟩ := hturn
      rcases List.mem_append.mp hw with hpending | hlater
      · obtain rfl := Option.mem_toList.mp hpending
        obtain ⟨-, rfl⟩ := hstands.of_pending hlatest
        exact List.mem_cons_self
      · exact List.mem_cons_of_mem _ (ih (hstands.commit hlatest) hturn hlater)

/-- A commit in turn is of a window that is committed with it, or has been before. -/
theorem exists_committed {floor : UInt16} {t : Instant} (hstands : cursor.Stands latest pending)
    (hturn : cursor.InTurn latest acts) (ht : t ∈ ends acts) :
    pending = none ∧ latest = some t ∨ ∃ w ∈ cursor.committed floor pending acts, w.stop = t := by
  induction acts generalizing cursor latest pending with
  | nil => cases ht
  | cons act acts ih =>
    cases act with
    | window now =>
      rcases ih (.asks floor cursor now) hturn ht with ⟨hnone, -⟩ | hw
      · cases hnone
      · exact .inr hw
    | commit stop =>
      obtain ⟨hlatest, hturn⟩ := hturn
      have hcases : latest = some t ∨
          ∃ w ∈ (cursor.commit stop).committed floor none acts, w.stop = t := by
        rcases List.mem_cons.mp ht with rfl | ht
        · exact .inl hlatest
        · exact (ih (hstands.commit hlatest) hturn ht).imp_left And.right
      rcases hcases with ht | ⟨w, hw, hstop⟩
      · cases pending with
        | none => exact .inl ⟨rfl, ht⟩
        | some w =>
          obtain ⟨-, hstop⟩ := hstands.of_pending ht
          exact .inr ⟨w, List.mem_append_left _ List.mem_cons_self, hstop⟩
      · exact .inr ⟨w, List.mem_append_right _ hw, hstop⟩

end Cursor

open Cursor in
/-- **Runs of a cursor are exact.** After any acts a cursor stands at the latest of the instants
where it started and that have been committed. So it never moves back, and does not depend on the
order of the commits. A window that it is then asked for starts there, ends at the later of this
instant and what the clock shows, and is a window that can be requested; asking for it changes
nothing. If each commit is of the end of the latest window, then the windows that are committed are
some of those that were asked for, in their order, and their ends are the instants that are
committed. They lie end to end from where the cursor started to where it stands, and leave no
instant between out; nor do they leave out the one where it started, if there are any. -/
theorem cursor_runs_exact (cursor : Cursor) (acts : List Act) :
    IsGreatest {t | t = cursor.last ∨ t ∈ ends acts} (cursor.run acts).last ∧
      (∀ more, (cursor.run acts).last ≤ (cursor.run (acts ++ more)).last) ∧
      (∀ acts', (ends acts').Perm (ends acts) → cursor.run acts' = cursor.run acts) ∧
      (∀ floor now more, ∃ w,
        Window.make (cursor.run acts).last (max now (cursor.run acts).last) floor = .ok w ∧
        cursor.asked floor (acts ++ .window now :: more) =
          cursor.asked floor acts ++ w :: (cursor.run acts).asked floor more ∧
        cursor.run (acts ++ .window now :: more) = cursor.run (acts ++ more)) ∧
      (cursor.InTurn none acts → ∀ floor,
        let ws := cursor.committed floor none acts
        ws.Sublist (cursor.asked floor acts) ∧ (∀ t, t ∈ ends acts ↔ ∃ w ∈ ws, w.stop = t) ∧
          Tiles cursor.last ws (cursor.run acts).last ∧
          (∀ t, cursor.last < t → t ≤ (cursor.run acts).last → ∃ w ∈ ws, w.Spans t) ∧
          (ws ≠ [] → ∃ w ∈ ws, w.Spans cursor.last)) := by
  refine ⟨isGreatest_run cursor acts, fun more => ?_, fun acts' => run_eq_of_perm,
    fun floor now more => ?_, fun hturn floor => ?_⟩
  · rw [run_append]
    exact last_le_last_run _ more
  · refine ⟨(cursor.run acts).asks floor now, dif_pos _, ?_, ?_⟩
    · rw [asked_append]
      rfl
    · rw [run_append, run_append]
      rfl
  · have htiles := tiles_committed floor (Stands.fresh cursor) hturn
    have hends : ∀ t, t ∈ ends acts ↔ ∃ w ∈ cursor.committed floor none acts, w.stop = t := by
      intro t
      constructor
      · intro ht
        rcases exists_committed (Stands.fresh cursor) hturn ht with ⟨-, hnone⟩ | hw
        · cases hnone
        · exact hw
      · rintro ⟨w, hw, rfl⟩
        exact stop_mem_ends (Stands.fresh cursor) hturn hw
    refine ⟨committed_sublist floor cursor none acts, hends, htiles, fun t hlt hle => ?_,
      fun hne => ?_⟩
    · have hne := htiles.ne_nil (lt_of_lt_of_le hlt hle)
      exact htiles.exists_spans hne (le_of_lt hlt) hle
    · exact htiles.exists_spans hne le_rfl (last_le_last_run cursor acts)

/-- A window that is dropped for a longer one, which ends in the leap second and is committed twice;
then one asked for when the clock has gone backwards, and one that ends with the leap second. -/
def newYearRun : List Cursor.Act :=
  [.window (newYearInstant 1 0), .window (newYearInstant 1 1500000000),
    .commit (newYearInstant 1 1500000000), .commit (newYearInstant 1 1500000000),
    .window (newYearInstant 0 5), .commit (newYearInstant 1 1500000000),
    .window (newYearInstant 2 0), .commit (newYearInstant 2 0)]

/-- Three windows are committed, the second a single instant, and the rest of the leap second lies
in the third. -/
theorem cursor_runs_exact_newYear :
    let cursor : Cursor := ⟨newYearInstant 0 0⟩
    let ws := cursor.committed 51 none newYearRun
    cursor.InTurn none newYearRun ∧ (cursor.run newYearRun).last = newYearInstant 2 0 ∧
      ws.map (fun w => (w.start, w.stop)) =
        [(newYearInstant 0 0, newYearInstant 1 1500000000),
          (newYearInstant 1 1500000000, newYearInstant 1 1500000000),
          (newYearInstant 1 1500000000, newYearInstant 2 0)] ∧
      Tiles (newYearInstant 0 0) ws (newYearInstant 2 0) ∧
      ∃ w ∈ ws, w.Spans (newYearInstant 1 1999999999) := by
  intro cursor ws
  have hturn : cursor.InTurn none newYearRun := ⟨rfl, rfl, rfl, rfl, trivial⟩
  have hlast : (cursor.run newYearRun).last = newYearInstant 2 0 := rfl
  obtain ⟨-, -, -, -, hcommits⟩ := cursor_runs_exact cursor newYearRun
  obtain ⟨-, -, htiles, hspans, -⟩ := hcommits hturn 51
  rw [hlast] at htiles hspans
  exact ⟨hturn, hlast, rfl, htiles, hspans _ (by decide) (by decide)⟩

end LogHistory
