import ReviewSignal.Integrations.Base
import Mathlib.Algebra.Order.Ring.Int

/-!
# Sync run lifecycle persistence

`SyncRunRepository`: a run starts as `running`, has its cursor saved page by page, and is finished
with a terminal status and its counts.  The watermark of an incremental sync is the `started_at`
of `last_successful`.

`started_at DESC LIMIT 1` leaves the choice among equal instants open; only the instant of the row
is ever used, and that is the same for all of them (`startedAt_le_watermark`, `watermark_mem`).

The watermark is the largest start of a successful run of the source, and not the start of the latest one to
end.  Rows of another source, and runs that did not succeed, never move it (`watermark_append_of_ne`); that
the rows of another *location* of the same source do, is the subject of `LocationWatermark`.
-/

namespace ReviewSignal

namespace SyncRunRepository

/-- `_FINISH_STATUSES`: every status but the start state. -/
def finishStatuses : List SyncRunStatus := [.success, .failed, .partially]

/-- The row `start` inserts. -/
def startedRow (source : String) (now : Instant) : SyncRun :=
  { source, status := .running, startedAt := now }

/-- `run.cursor_state = cursor_state` -/
def saveCursor (cursorState : Option Json) (run : SyncRun) : SyncRun := { run with cursorState }

/-- The columns `finish` sets, on a status it accepts. -/
def finish (status : SyncRunStatus) (now : Instant)
    (reviewsFetched reviewsCreated reviewsUpdated : ℕ) (errorMessage : Option String)
    (run : SyncRun) : Except Exn SyncRun :=
  if status ∈ finishStatuses then
    .ok { run with
      status, finishedAt := some now, reviewsFetched, reviewsCreated, reviewsUpdated, errorMessage }
  else .error ⟨"ValueError", "invalid sync run finish status: 'running'"⟩

/-- `SyncRunRepository.last_successful` -/
def lastSuccessful (source : String) (runs : List SyncRun) : Option SyncRun :=
  (runs.filter fun run => run.source = source ∧ run.status = .success).maxOn? (·.startedAt)

/-- The watermark of an incremental sync: the `started_at` of the last successful run. -/
def watermark (source : String) (runs : List SyncRun) : Option Instant :=
  (lastSuccessful source runs).map (·.startedAt)

variable {source : String} {runs : List SyncRun} {run : SyncRun} {w : Instant}

/-- The watermark is the start of some successful run of the source. -/
theorem watermark_mem (h : watermark source runs = some w) :
    ∃ run ∈ runs, run.source = source ∧ run.status = .success ∧ run.startedAt = w := by
  obtain ⟨run, hrun, rfl⟩ := Option.map_eq_some_iff.mp h
  have hmem := List.maxOn?_mem hrun
  rw [List.mem_filter, decide_eq_true_eq] at hmem
  exact ⟨run, hmem.1, hmem.2.1, hmem.2.2, rfl⟩

theorem mem_successful (hmem : run ∈ runs) (hsource : run.source = source)
    (hstatus : run.status = .success) :
    run ∈ runs.filter fun run => run.source = source ∧ run.status = .success :=
  List.mem_filter.mpr ⟨hmem, decide_eq_true ⟨hsource, hstatus⟩⟩

/-- And no successful run of the source started later. -/
theorem startedAt_le_watermark (h : watermark source runs = some w) (hmem : run ∈ runs)
    (hsource : run.source = source) (hstatus : run.status = .success) : run.startedAt ≤ w := by
  obtain ⟨last, hlast, rfl⟩ := Option.map_eq_some_iff.mp h
  have hle := List.le_apply_get_maxOn?_of_mem (f := (·.startedAt))
    (mem_successful hmem hsource hstatus)
  rw [lastSuccessful] at hlast
  simp only [hlast, Option.get_some] at hle
  exact hle

/-- A successful run leaves a watermark no earlier than its start. -/
theorem exists_watermark (hmem : run ∈ runs) (hsource : run.source = source)
    (hstatus : run.status = .success) : ∃ w, watermark source runs = some w ∧ run.startedAt ≤ w := by
  cases h : watermark source runs with
  | some w => exact ⟨w, rfl, startedAt_le_watermark h hmem hsource hstatus⟩
  | none =>
      rw [watermark, Option.map_eq_none_iff] at h
      have hsome := List.isSome_maxOn?_of_mem (f := (·.startedAt))
        (mem_successful hmem hsource hstatus)
      rw [lastSuccessful] at h
      rw [h] at hsome
      cases hsome

/-- A row of another source, or one that did not succeed, never moves the watermark. -/
theorem watermark_append_of_ne (h : ¬ (run.source = source ∧ run.status = .success)) :
    watermark source (runs ++ [run]) = watermark source runs := by
  have hdrop : [run].filter (fun r => decide (r.source = source ∧ r.status = .success)) = [] := by
    rw [List.filter_eq_nil_iff]
    intro r hr
    rw [List.mem_singleton] at hr
    subst hr
    simpa using h
  rw [watermark, watermark, lastSuccessful, lastSuccessful, List.filter_append, hdrop,
    List.append_nil]

/-- The watermark only looks at the rows of its own source. -/
theorem watermark_filter (p : SyncRun → Bool) (hp : ∀ run, run.source = source → p run = true) :
    watermark source (runs.filter p) = watermark source runs := by
  have hfilter : (runs.filter p).filter (fun r => decide (r.source = source ∧ r.status = .success))
      = runs.filter fun r => decide (r.source = source ∧ r.status = .success) := by
    rw [List.filter_filter]
    refine List.filter_congr fun r _ => ?_
    by_cases hr : r.source = source ∧ r.status = .success
    · simp only [hr, and_self, decide_true, Bool.true_and, hp r hr.1]
    · simp only [hr, decide_false, Bool.false_and]
  rw [watermark, watermark, lastSuccessful, lastSuccessful, hfilter]

theorem finish_ok {status : SyncRunStatus} (h : status ∈ finishStatuses) (now : Instant)
    (reviewsFetched reviewsCreated reviewsUpdated : ℕ) (errorMessage : Option String) :
    finish status now reviewsFetched reviewsCreated reviewsUpdated errorMessage run
      = .ok { run with
          status, finishedAt := some now, reviewsFetched, reviewsCreated, reviewsUpdated,
          errorMessage } := by
  rw [finish, if_pos h]

end SyncRunRepository

end ReviewSignal
