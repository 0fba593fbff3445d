import ReviewSignal.Foundations.Pool
import ReviewSignal.Worker.Runner

/-!
# The evaluation job

`evaluation_run` of `jobs/evaluation.py`, as the steps its attempts take: the check, the scoring, the
INSERT, its commit, and the second check after an `IntegrityError`.  Any number of attempts, of one
job or of several, share the `evaluation_runs` table.

PostgreSQL is at READ COMMITTED.  A check sees the committed rows.  An INSERT waits while another
open transaction holds a row with its `job_id`; it is refused when such a row is committed by then,
or when the job does not exist.  Anything else may raise at any step, an `IntegrityError` for another
reason among them, and a process may die at any step: its open transaction is rolled back.

The handler is a state machine here and a program in `Jobs/Taxonomy`.  Its whole point is what happens when
two of its attempts meet, and a program that runs to its end cannot show that.  What the scoring computes is
a parameter of a step; `EvaluationScoring` gives it its value.
-/

namespace ReviewSignal

/-- `EvaluationResult`, with what `metrics_payload` makes of its metric families. -/
structure EvaluationResult where
  datasetVersion : String
  taxonomyVersion : Option String
  modelName : String
  modelVersion : Option String
  promptVersion : Option String
  metricsPayload : Json
  deriving DecidableEq

/-- What scoring the benchmark comes to: the file cannot be loaded, `run_evaluation` raises, or there
is a result. -/
inductive BenchmarkOutcome where
  | unreadable (exc : Exn)
  | fails (exc : Exn)
  | result (result : EvaluationResult)
  deriving DecidableEq

/-- What an attempt is called with, and what it reads of its process: the keys of `PREDICTORS`, the
configured path, and `repr` of a JSON value. -/
structure EvaluationCall where
  payload : Json
  key : JobId
  predictors : List String
  benchmarkPath : String
  repr : Json → String

/-- `get_predictor`: `dict.get` raises when its argument cannot be hashed. -/
def getPredictor (predictors : List String) : Json → Except Exn (Option String)
  | .str evaluationType =>
      .ok (if evaluationType ∈ predictors then some evaluationType else none)
  | .arr _ => .error ⟨"TypeError", "unhashable type: 'list'"⟩
  | .obj _ => .error ⟨"TypeError", "unhashable type: 'dict'"⟩
  | .null | .bool _ | .num _ => .ok none

/-- The committed rows, and those of the open transactions. -/
structure EvaluationDb (ι : Type) where
  jobs : Finset JobId
  committed : List EvaluationRun
  uncommitted : List (ι × EvaluationRun)

namespace EvaluationDb

variable {ι : Type} [DecidableEq ι]

/-- All rows. -/
def rows (db : EvaluationDb ι) : List EvaluationRun := db.committed ++ db.uncommitted.map (·.2)

/-- The transaction of a process is rolled back, if it has one. -/
def rollback (i : ι) (db : EvaluationDb ι) : EvaluationDb ι :=
  { db with uncommitted := db.uncommitted.filter (·.1 ≠ i) }

/-- The transaction of a process is committed. -/
def commit (i : ι) (row : EvaluationRun) (db : EvaluationDb ι) : EvaluationDb ι :=
  { db.rollback i with committed := db.committed ++ [row] }

/-- Another open transaction holds a row of this job. -/
def Locked (i : ι) (key : JobId) (db : EvaluationDb ι) : Prop :=
  ∃ entry ∈ db.uncommitted, entry.1 ≠ i ∧ entry.2.jobId = some key

instance (i : ι) (key : JobId) (db : EvaluationDb ι) : Decidable (db.Locked i key) :=
  inferInstanceAs (Decidable (∃ entry ∈ db.uncommitted, _))

end EvaluationDb

namespace EvaluationRunRepository

/-- The row of `record`, as the job calls it. -/
def row (result : EvaluationResult) (evaluationType : String) (key : JobId) : EvaluationRun where
  jobId := some key
  evaluationType
  modelName := result.modelName
  modelVersion := result.modelVersion
  promptVersion := result.promptVersion
  taxonomyVersionId := none
  taxonomyVersion := result.taxonomyVersion
  datasetVersion := result.datasetVersion
  metrics := result.metricsPayload
  notes := none

/-- `already_recorded` -/
def alreadyRecorded (key : JobId) (committed : List EvaluationRun) : Bool :=
  committed.any (·.jobId = some key)

/-- What PostgreSQL makes of the flush of `record`. -/
def refused {ι : Type} (db : EvaluationDb ι) (key : JobId) : Option Exn :=
  if alreadyRecorded key db.committed then
    some ⟨"IntegrityError", "duplicate key value violates unique constraint \"uq_evaluation_runs_job_id\""⟩
  else if key ∉ db.jobs then
    some ⟨"IntegrityError", "insert violates foreign key constraint \"fk_evaluation_runs_job_id_jobs\""⟩
  else none

end EvaluationRunRepository

open EvaluationRunRepository

/-- Where an attempt is. -/
inductive EvaluationPhase where
  | fresh
  /-- The check found no row. -/
  | checked (evaluationType : Json)
  | scored (evaluationType : String) (result : EvaluationResult)
  /-- The row is flushed, and not committed. -/
  | inserted (row : EvaluationRun)
  /-- The `except IntegrityError` clause. -/
  | refused (exc : Exn)
  | ended (ended : Ended Exn Unit)
  deriving DecidableEq

/-- An attempt.  Beside its phase it remembers what its two checks found, whether it called
`run_evaluation`, and the `IntegrityError` it caught. -/
structure EvaluationAttempt where
  phase : EvaluationPhase
  found : Option Bool := none
  scoredBenchmark : Bool := false
  refusal : Option Exn := none
  rechecked : Option Bool := none
  deriving DecidableEq

inductive EvaluationStep where
  | check
  | score (outcome : BenchmarkOutcome)
  | insert
  | commit
  | recheck
  /-- A query, the flush or the commit raises. -/
  | raise (exc : Exn)
  | die
  deriving DecidableEq

namespace EvaluationAttempt

/-- Before its first step. -/
def start : EvaluationAttempt := ⟨.fresh, none, false, none, none⟩

def finish (ended : Ended Exn Unit) (attempt : EvaluationAttempt) : EvaluationAttempt :=
  { attempt with phase := .ended ended }

/-- An exception in the `try` block: its `except` clause catches an `IntegrityError`. -/
def caught (exc : Exn) (attempt : EvaluationAttempt) : EvaluationAttempt :=
  if exc.typeName = "IntegrityError" then
    { attempt with phase := .refused exc, refusal := some exc }
  else attempt.finish (.raised exc)

/-- From `payload["evaluation_type"]` to the end of the first transaction. -/
def check (call : EvaluationCall) (committed : List EvaluationRun) (attempt : EvaluationAttempt) :
    EvaluationAttempt :=
  match call.payload.get? "evaluation_type" with
  | none => attempt.finish (.raised ⟨"KeyError", "'evaluation_type'"⟩)
  | some evaluationType =>
      if alreadyRecorded call.key committed then
        { attempt with phase := .ended (.returned ()), found := some true }
      else { attempt with phase := .checked evaluationType, found := some false }

/-- From `get_predictor` to the result of `run_evaluation`. -/
def score (call : EvaluationCall) (evaluationType : Json) (outcome : BenchmarkOutcome)
    (attempt : EvaluationAttempt) : EvaluationAttempt :=
  match getPredictor call.predictors evaluationType with
  | .error exc => attempt.finish (.raised exc)
  | .ok none => attempt.finish (.raised (permanentJobError
      ("No predictor is registered for evaluation type " ++ call.repr evaluationType ++ ".")))
  | .ok (some evaluationType) =>
      if call.benchmarkPath = "" then
        attempt.finish (.raised
          (permanentJobError "No benchmark is configured; set BENCHMARK_PATH."))
      else
        match outcome with
        | .unreadable exc => attempt.finish (.raised exc)
        | .fails exc => { attempt.finish (.raised exc) with scoredBenchmark := true }
        | .result result =>
            { attempt with phase := .scored evaluationType result, scoredBenchmark := true }

end EvaluationAttempt

variable {ι : Type} [DecidableEq ι]

/-- One step of one attempt. -/
def evaluationRun (call : ι → EvaluationCall) (i : ι) (step : EvaluationStep) (db : EvaluationDb ι)
    (attempt : EvaluationAttempt) : Option (EvaluationDb ι × EvaluationAttempt) :=
  match step, attempt.phase with
  | .check, .fresh => some (db, attempt.check (call i) db.committed)
  | .score outcome, .checked evaluationType =>
      some (db, attempt.score (call i) evaluationType outcome)
  | .insert, .scored evaluationType result =>
      if db.Locked i (call i).key then none
      else
        match refused db (call i).key with
        | some exc => some (db.rollback i, attempt.caught exc)
        | none =>
            let row := row result evaluationType (call i).key
            some ({ db with uncommitted := (i, row) :: db.uncommitted },
              { attempt with phase := .inserted row })
  | .commit, .inserted row => some (db.commit i row, attempt.finish (.returned ()))
  | .recheck, .refused exc =>
      let found := alreadyRecorded (call i).key db.committed
      some (db, { attempt with
        phase := .ended (if found then .returned () else .raised exc), rechecked := some found })
  | .raise exc, .scored .. | .raise exc, .inserted _ => some (db.rollback i, attempt.caught exc)
  | .raise exc, .fresh | .raise exc, .checked _ | .raise exc, .refused _ =>
      some (db.rollback i, attempt.finish (.raised exc))
  | .die, .fresh | .die, .checked _ | .die, .scored .. | .die, .inserted _ | .die, .refused _ =>
      some (db.rollback i, attempt.finish .died)
  | _, _ => none

end ReviewSignal
