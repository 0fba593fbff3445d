import ReviewSignal.Worker.Queue

/-!
# Job execution

`run_job` of `runner.py`, in the two transactions it makes: `begin` marks the row as running and
reads what the execution needs, and `record` writes the outcome.  The handler runs between the two;
what it does there is one of three outcomes.

`PermanentJobError` is recorded and swallowed.  Every other exception is recorded and raised again,
which hands the job back to RQ.

**One execution** (`runJob_spec`).  The row is the loaded one, marked, while the handler runs and the row
of the outcome (`outcomeRow`) after it; RQ sees an exception just when the outcome is an ordinary one,
which `resolve` makes of a type that has no handler.  Whether such a row is `failed` or `dead_letter` is
decided by what the first transaction read (`status_outcomeRow_eq_failed`), not by a second look.

Both transactions go through here.  `Redelivery` is the same function with a fault wherever one can
happen, and `ConcurrentExecutions` takes the transactions apart; both use the row functions of this module.
-/

namespace ReviewSignal

/-- `PermanentJobError` -/
def permanentJobError (message : String) : Exn := ⟨"PermanentJobError", message⟩

/-- How the handler of an execution ends. -/
inductive HandlerOutcome where
  | returns
  /-- `PermanentJobError` or a subclass of it. -/
  | permanent (exc : Exn)
  | raises (exc : Exn)
  deriving DecidableEq, Repr

/-- The outcome is an exception that goes back to RQ, not a return or a `PermanentJobError`. -/
def HandlerOutcome.reraised : HandlerOutcome → Bool
  | .raises _ => true
  | _ => false

/-- The keys of `HANDLERS`. -/
def handlers : List String :=
  ["noop", "google_backfill", "google_sync", "evaluation_run", "taxonomy_generate"]

/-- What `run_job` keeps of the row while the handler runs. -/
structure Claim where
  jobType : String
  payload : Json
  attempt : ℕ
  maxAttempts : ℕ
  deriving DecidableEq

namespace Runner

/-- `_resolve`, then the handler: an unregistered type raises before any handler runs. -/
def resolve (jobType : String) (outcome : HandlerOutcome) : HandlerOutcome :=
  if jobType ∈ handlers then outcome
  else .raises ⟨"LookupError", "No handler registered for job type '" ++ jobType ++ "'."⟩

/-- The assignments of the first transaction. -/
def running (now : Instant) (job : Job) : Job :=
  { job with status := .running, startedAt := some now, attemptCount := job.attemptCount + 1 }

/-- The tuple the first transaction reads, from the updated row. -/
def claim (job : Job) : Claim :=
  ⟨job.jobType, job.payload, job.attemptCount, job.maxAttempts⟩

/-- `_record_success` -/
def recordSuccess (now : Instant) (job : Job) : Job :=
  { job with status := .succeeded, finishedAt := some now, errorMessage := none }

/-- `_record_failure` -/
def recordFailure (now : Instant) (exc : Exn) (attempt maxAttempts : ℕ) (permanent : Bool)
    (job : Job) : Job :=
  { job with
    status := if permanent ∨ maxAttempts ≤ attempt then .deadLetter else .failed
    finishedAt := some now
    errorMessage := some exc.describe }

/-- `session.get(Job, key)`, and an update of the row if there is one. -/
def update (key : JobId) (f : Job → Job) (jobs : JobTable) : JobTable :=
  match jobs.lookup key with
  | none => jobs
  | some job => jobs.insert key (f job)

/-- The first transaction.  Nothing is claimed when the row is missing. -/
def begin (now : Instant) (key : JobId) (jobs : JobTable) : Option Claim × JobTable :=
  match jobs.lookup key with
  | none => (none, jobs)  -- "Job %s not found"
  | some job => (some (claim (running now job)), jobs.insert key (running now job))

/-- The handler and the second transaction: the exception RQ sees, if any, and the table. -/
def record (now : Instant) (key : JobId) (held : Claim) (outcome : HandlerOutcome)
    (jobs : JobTable) : Option Exn × JobTable :=
  match resolve held.jobType outcome with
  | .returns => (none, update key (recordSuccess now) jobs)
  | .permanent exc =>
      (none, update key (recordFailure now exc held.attempt held.maxAttempts true) jobs)
  | .raises exc =>
      (some exc, update key (recordFailure now exc held.attempt held.maxAttempts false) jobs)

end Runner

/-- One execution of `run_job`: the tables its two transactions commit, and the exception it raises
to RQ. -/
structure Execution where
  started : JobTable
  finished : JobTable
  raised : Option Exn

/-- The choices of the environment in one execution. -/
structure Attempt where
  startedAt : Instant
  finishedAt : Instant
  outcome : HandlerOutcome

/-- `run_job` -/
def runJob (attempt : Attempt) (key : JobId) (jobs : JobTable) : Execution :=
  match Runner.begin attempt.startedAt key jobs with
  | (none, jobs) => ⟨jobs, jobs, none⟩
  | (some held, started) =>
      let (raised, finished) := Runner.record attempt.finishedAt key held attempt.outcome started
      ⟨started, finished, raised⟩

/-! ## What an execution writes

The rows before and after, in terms of what the execution holds.  The key of the row is the only one that
changes. -/

namespace Runner

variable {key : JobId} {jobs : JobTable} {job : Job} {now : Instant} {held : Claim}
  {outcome : HandlerOutcome}

theorem lookup_update_self (f : Job → Job) :
    (update key f jobs).lookup key = (jobs.lookup key).map f := by
  rw [update]
  cases h : jobs.lookup key with
  | none => exact h
  | some job => exact Finmap.lookup_insert _

theorem lookup_update_of_ne {other : JobId} (h : other ≠ key) (f : Job → Job) :
    (update key f jobs).lookup other = jobs.lookup other := by
  rw [update]
  cases jobs.lookup key with
  | none => rfl
  | some job => exact Finmap.lookup_insert_of_ne _ h

theorem begin_of_lookup (h : jobs.lookup key = some job) :
    begin now key jobs = (some (claim (running now job)), jobs.insert key (running now job)) := by
  rw [begin, h]

/-- The row an outcome leaves, given what the execution holds. -/
def outcomeRow (now : Instant) (held : Claim) : HandlerOutcome → Job → Job
  | .returns => recordSuccess now
  | .permanent exc => recordFailure now exc held.attempt held.maxAttempts true
  | .raises exc => recordFailure now exc held.attempt held.maxAttempts false

theorem record_table : (record now key held outcome jobs).2
    = update key (outcomeRow now held (resolve held.jobType outcome)) jobs := by
  rw [record]
  cases resolve held.jobType outcome <;> rfl

/-- Recording touches the row of its own job only. -/
theorem lookup_record_of_ne {other : JobId} (h : other ≠ key) :
    (record now key held outcome jobs).2.lookup other = jobs.lookup other := by
  rw [record_table, lookup_update_of_ne h]

theorem lookup_record_self : (record now key held outcome jobs).2.lookup key
    = (jobs.lookup key).map (outcomeRow now held (resolve held.jobType outcome)) := by
  rw [record_table, lookup_update_self]

/-- RQ sees an exception exactly when the outcome is an ordinary one. -/
theorem isSome_record :
    (record now key held outcome jobs).1.isSome = (resolve held.jobType outcome).reraised := by
  rw [record]
  cases resolve held.jobType outcome <;> rfl

theorem reraised_resolve {jobType : String} : (resolve jobType outcome).reraised = false ↔
    jobType ∈ handlers ∧ outcome.reraised = false := by
  rw [resolve]
  split_ifs with h
  · exact ⟨fun hsettled => ⟨h, hsettled⟩, And.right⟩
  · exact ⟨nofun, fun hboth => absurd hboth.1 h⟩

/-- An outcome takes the row out of `queued` and `running`. -/
theorem status_outcomeRow : (outcomeRow now held outcome job).status ≠ .queued ∧
    (outcomeRow now held outcome job).status ≠ .running := by
  cases outcome with
  | returns => exact ⟨nofun, nofun⟩
  | permanent exc => exact ⟨nofun, nofun⟩
  | raises exc =>
      by_cases hlast : held.maxAttempts ≤ held.attempt
      · simp [outcomeRow, recordFailure, hlast]
      · simp [outcomeRow, recordFailure, hlast]

/-- What makes a row `failed`. -/
theorem status_outcomeRow_eq_failed : (outcomeRow now held outcome job).status = .failed ↔
    outcome.reraised = true ∧ held.attempt < held.maxAttempts := by
  cases outcome with
  | returns => exact ⟨nofun, nofun⟩
  | permanent exc => exact ⟨nofun, nofun⟩
  | raises exc =>
      by_cases hlast : held.maxAttempts ≤ held.attempt
      · simp [outcomeRow, recordFailure, HandlerOutcome.reraised, hlast]
      · simp [outcomeRow, recordFailure, HandlerOutcome.reraised, not_le.mp hlast]

/-- An outcome leaves the number of attempts and its bound as they are. -/
theorem attempts_outcomeRow (now : Instant) (held : Claim) (outcome : HandlerOutcome) (job : Job) :
    (outcomeRow now held outcome job).attemptCount = job.attemptCount ∧
      (outcomeRow now held outcome job).maxAttempts = job.maxAttempts := by
  cases outcome <;> exact ⟨rfl, rfl⟩

end Runner

/-- **One execution** of a recorded job: its row during and after, and what RQ sees. -/
theorem runJob_spec {key : JobId} {jobs : JobTable} {job : Job} (h : jobs.lookup key = some job)
    (attempt : Attempt) :
    (runJob attempt key jobs).started.lookup key = some (Runner.running attempt.startedAt job) ∧
    (runJob attempt key jobs).finished.lookup key
      = some (Runner.outcomeRow attempt.finishedAt
          (Runner.claim (Runner.running attempt.startedAt job))
          (Runner.resolve job.jobType attempt.outcome)
          (Runner.running attempt.startedAt job)) ∧
    (runJob attempt key jobs).raised.isSome
      = (Runner.resolve job.jobType attempt.outcome).reraised := by
  have hstarted : (jobs.insert key (Runner.running attempt.startedAt job)).lookup key
      = some (Runner.running attempt.startedAt job) := Finmap.lookup_insert _
  rw [runJob, Runner.begin_of_lookup h]
  refine ⟨hstarted, ?_, Runner.isSome_record⟩
  show (Runner.record _ key _ _ _).2.lookup key = _
  rw [Runner.lookup_record_self, hstarted]
  rfl

end ReviewSignal
