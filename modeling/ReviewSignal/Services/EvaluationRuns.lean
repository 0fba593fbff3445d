import ReviewSignal.Foundations.Listing
import ReviewSignal.Foundations.Ranking
import ReviewSignal.Worker.RecordedOnce

/-!
# The history of evaluation runs

What `EvaluationService` reads of the table that the attempts of `evaluation_run` write: the list of runs,
newest first, and one run.

**`history_grows`**: a run that was listed once stays listed as it is and in its place, whatever the attempts
do in the meantime, and a run that was looked up is found again.  What is listed descends by `created_at` and
then by id, and is what can be looked up.

A row's `created_at` is when its transaction began and its id is random, so neither follows the order of the
commits (`RunStamps`): a run that is committed later may well be listed further down.  What keeps its place is
the order of the runs that were listed already.

Nothing deletes or changes a run, which is all the proof needs of the attempts.
-/

namespace ReviewSignal

/-- The `id` and the `created_at` of the rows, by the order of their commits.  Neither follows it: an id is
random, and `now()` is when a transaction began. -/
structure RunStamps where
  id : ℕ → ℕ
  createdAt : ℕ → Instant
  id_injective : Function.Injective id

/-- A row as it is read. -/
structure StoredRun extends EvaluationRun where
  id : ℕ
  createdAt : Instant
  deriving DecidableEq

/-- `EvaluationRunSummary` -/
structure EvaluationRunSummary where
  id : ℕ
  evaluationType : String
  modelName : String
  modelVersion : Option String
  promptVersion : Option String
  taxonomyVersion : Option String
  datasetVersion : String
  createdAt : Instant
  deriving DecidableEq

/-- `EvaluationRunDetail` -/
structure EvaluationRunDetail extends EvaluationRunSummary where
  taxonomyVersionId : Option ℕ
  metrics : Json
  notes : Option String
  deriving DecidableEq

namespace EvaluationRunReader

/-- The rows of the table. -/
def table (stamps : RunStamps) (committed : List EvaluationRun) : List StoredRun :=
  committed.mapIdx fun i run => ⟨run, stamps.id i, stamps.createdAt i⟩

/-- `ORDER BY created_at DESC, id DESC` -/
def Newer (a b : StoredRun) : Prop :=
  b.createdAt < a.createdAt ∨ a.createdAt = b.createdAt ∧ b.id ≤ a.id

instance : DecidableRel Newer := fun _ _ => inferInstanceAs (Decidable (_ ∨ _ ∧ _))

/-- `list_newest_first` -/
def listNewestFirst (stamps : RunStamps) (committed : List EvaluationRun) : List StoredRun :=
  (table stamps committed).insertionSort Newer

/-- `get` -/
def get (stamps : RunStamps) (committed : List EvaluationRun) (runId : ℕ) : Option StoredRun :=
  (table stamps committed).find? (·.id = runId)

end EvaluationRunReader

namespace EvaluationService

open EvaluationRunReader

/-- `EvaluationRunSummary.model_validate` -/
def summary (run : StoredRun) : EvaluationRunSummary :=
  ⟨run.id, run.evaluationType, run.modelName, run.modelVersion, run.promptVersion, run.taxonomyVersion,
    run.datasetVersion, run.createdAt⟩

/-- `EvaluationRunDetail.model_validate` -/
def detail (run : StoredRun) : EvaluationRunDetail :=
  ⟨summary run, run.taxonomyVersionId, run.metrics, run.notes⟩

/-- `list_runs` -/
def listRuns (stamps : RunStamps) (committed : List EvaluationRun) : List EvaluationRunSummary :=
  (listNewestFirst stamps committed).map summary

/-- `get_run` -/
def getRun (stamps : RunStamps) (committed : List EvaluationRun) (runId : ℕ) :
    Except Exn EvaluationRunDetail :=
  match get stamps committed runId with
  | some run => .ok (detail run)
  | none => .error ⟨"ResourceNotFoundError", "Evaluation run not found."⟩

/-- `(created_at, id)` descends. -/
def Descends (a b : EvaluationRunSummary) : Prop :=
  b.createdAt < a.createdAt ∨ a.createdAt = b.createdAt ∧ b.id < a.id

variable {stamps : RunStamps} {committed committed' : List EvaluationRun} {runId : ℕ}

/-! ## The table

The rows are those of the commits, in their order, with what the database adds to each. -/

instance : Std.Total Newer where
  total a b := by
    simp only [Newer]
    lia

instance : IsTrans StoredRun Newer where
  trans a b c hab hbc := by
    simp only [Newer] at hab hbc ⊢
    lia

/-- Rows are added at the end. -/
theorem table_grows (stamps : RunStamps) (h : committed <+: committed') :
    table stamps committed <+: table stamps committed' := by
  obtain ⟨added, rfl⟩ := h
  rw [table, table, List.mapIdx_append]
  exact List.prefix_append _ _

theorem nodup_ids : ((table stamps committed).map (·.id)).Nodup := by
  have hids : (table stamps committed).map (·.id) = (List.range committed.length).map stamps.id :=
    List.ext_getElem (by simp [table]) (by simp [table])
  rw [hids]
  exact List.nodup_range.map stamps.id_injective

theorem mem_listNewestFirst {run : StoredRun} :
    run ∈ listNewestFirst stamps committed ↔ run ∈ table stamps committed :=
  (List.perm_insertionSort _ _).mem_iff

/-- A row is found by its id. -/
theorem get_eq_some_iff {run : StoredRun} :
    get stamps committed runId = some run ↔ run ∈ table stamps committed ∧ run.id = runId :=
  find?_key_eq_some_iff nodup_ids

theorem getRun_eq_ok_iff {found : EvaluationRunDetail} : getRun stamps committed runId = .ok found
    ↔ ∃ run ∈ table stamps committed, run.id = runId ∧ detail run = found := by
  have hget (run : StoredRun) :
      run ∈ table stamps committed ∧ run.id = runId ∧ detail run = found
        ↔ get stamps committed runId = some run ∧ detail run = found := by
    rw [get_eq_some_iff, and_assoc]
  simp only [hget]
  rw [getRun]
  cases get stamps committed runId <;> simp

/-- No two rows tie, for their ids differ. -/
theorem listRuns_descends : (listRuns stamps committed).Pairwise Descends := by
  have hnewer : (listNewestFirst stamps committed).Pairwise Newer := List.pairwise_insertionSort _ _
  have hnodup : ((listNewestFirst stamps committed).map (·.id)).Nodup :=
    ((List.perm_insertionSort _ _).map _).nodup_iff.mpr nodup_ids
  have hdistinct : (listNewestFirst stamps committed).Pairwise fun a b => a.id ≠ b.id :=
    List.pairwise_map.mp hnodup
  rw [listRuns, List.pairwise_map]
  refine (hnewer.and hdistinct).imp ?_
  rintro a b ⟨hab, hne⟩
  simp only [Newer] at hab
  simp only [Descends, summary]
  lia

/-- A run is listed if and only if it can be looked up. -/
theorem mem_listRuns_iff {listed : EvaluationRunSummary} : listed ∈ listRuns stamps committed
    ↔ ∃ found, getRun stamps committed listed.id = .ok found ∧
      found.toEvaluationRunSummary = listed := by
  simp only [listRuns, List.mem_map, mem_listNewestFirst, getRun_eq_ok_iff]
  constructor
  · rintro ⟨run, hrun, rfl⟩
    exact ⟨detail run, ⟨run, hrun, rfl, rfl⟩, rfl⟩
  · rintro ⟨_, ⟨run, hrun, -, rfl⟩, rfl⟩
    exact ⟨run, hrun, rfl⟩

/-! ## Runs of the attempts

From any state an interleaving has reached. -/

variable {ι : Type} [DecidableEq ι] {call : ι → EvaluationCall}
  {s t : Pool ι (EvaluationDb ι) EvaluationAttempt} {events : List (ι × EvaluationStep)}

/-- What an attempt commits comes after what was committed. -/
theorem committed_grows (h : exec (Pool.step (evaluationRun call)) s events = some t) :
    s.shared.committed <+: t.shared.committed := by
  have hkeeps (s' : Pool ι (EvaluationDb ι) EvaluationAttempt) (event : ι × EvaluationStep)
      (t' : Pool ι (EvaluationDb ι) EvaluationAttempt) (hgrows : s.shared.committed <+: s'.shared.committed)
      (hstep : Pool.step (evaluationRun call) s' event = some t') :
      s.shared.committed <+: t'.shared.committed := by
    obtain ⟨db, attempt, hact, rfl⟩ := Pool.step_eq_some.mp hstep
    cases evaluationRun_move hact with
    | commit => exact hgrows.trans (List.prefix_append _ _)
    | _ => exact hgrows
  exact @exec_invariant _ _ _ (fun t => s.shared.committed <+: t.shared.committed) _ _ _ hkeeps
    (List.prefix_refl _) h

/-- **The history only grows**: whatever is listed stays listed as it is and in its order, and a run that was
looked up is found again.  What is listed descends, and is what can be looked up. -/
theorem history_grows (call : ι → EvaluationCall) (stamps : RunStamps)
    {s t : Pool ι (EvaluationDb ι) EvaluationAttempt} {events : List (ι × EvaluationStep)}
    (h : exec (Pool.step (evaluationRun call)) s events = some t) :
    (listRuns stamps s.shared.committed).Sublist (listRuns stamps t.shared.committed) ∧
    (∀ runId found, getRun stamps s.shared.committed runId = .ok found →
      getRun stamps t.shared.committed runId = .ok found) ∧
    (listRuns stamps t.shared.committed).Pairwise Descends ∧
    ∀ listed, listed ∈ listRuns stamps t.shared.committed ↔
      ∃ found, getRun stamps t.shared.committed listed.id = .ok found ∧
        found.toEvaluationRunSummary = listed := by
  have hgrows := table_grows stamps (committed_grows h)
  refine ⟨(insertionSort_sublist hgrows.sublist).map summary, fun runId found hfound => ?_,
    listRuns_descends, fun listed => mem_listRuns_iff⟩
  obtain ⟨run, hrun, hid, hdetail⟩ := getRun_eq_ok_iff.mp hfound
  exact getRun_eq_ok_iff.mpr ⟨run, hgrows.subset hrun, hid, hdetail⟩

/-- Transactions that are committed in the opposite order of their beginnings. -/
def latestFirst : RunStamps := ⟨id, fun i => -i, Function.injective_id⟩

/-- A run of another job. -/
def earlierRun : EvaluationRun := EvaluationRunRepository.row raceResult "classification" 6

/-- Two workers on one job add one run to it. -/
theorem history_grows_race : ∃ t,
    exec (Pool.step (evaluationRun raceCall)) (evaluationStart {7} [earlierRun]) (raceEvents 0 1) = some t ∧
    t.shared.committed.length = 2 ∧
    (listRuns latestFirst [earlierRun]).Sublist (listRuns latestFirst t.shared.committed) := by
  refine ⟨_, rfl, rfl, ?_⟩
  have hrun : exec (Pool.step (evaluationRun raceCall)) (evaluationStart {7} [earlierRun]) (raceEvents 0 1)
      = some _ := rfl
  exact (history_grows raceCall latestFirst hrun).1

end EvaluationService

end ReviewSignal
