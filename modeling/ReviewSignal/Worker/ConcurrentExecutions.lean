import ReviewSignal.Foundations.ColumnUpdate
import ReviewSignal.Foundations.Pool
import ReviewSignal.Worker.Runner
import Mathlib.Data.Fintype.Basic

/-!
# Concurrent executions of one job

Any number of executions of `run_job` for one job, taking turns between the reads and the commits of
its two transactions.  Nothing deletes a job, so its row is there throughout.

PostgreSQL is at READ COMMITTED and no row is locked by a read: between the load of a transaction and
its commit other executions may commit.  Each transaction sends one UPDATE, right before its commit,
of the columns whose value is no longer the loaded one.  An execution may stop anywhere.

* `runJob_alone` — undisturbed, the steps of an execution are `runJob`, which connects this module to
  the sequential ones.
* **`settled_in_order`** — while every step is in order (`StepInOrder`), a recorded success is final and
  `attempt_count` counts the executions that marked the job, in every state of the run.
* `exists_unsettled` — the condition is needed: from where a step was out of order, one execution gets to
  a state that is not settled with no other step between.
* `late_failure_overwrites_success` — two workers on one job, one of which succeeds and the other one fails
  after it.  The row says `failed`, and counts one attempt.

A step is out of order in one of three ways: an execution marks the row when its count is no longer the one
loaded; a handler fails after another execution recorded a success; or an execution records a success while
another one is on its way to record a failure.
-/

namespace ReviewSignal

/-- The UPDATE of a flush, on the row it meets. -/
def flushJob (loaded new stored : Job) : Job where
  jobType := written loaded.jobType new.jobType stored.jobType
  status := written loaded.status new.status stored.status
  payload := written loaded.payload new.payload stored.payload
  attemptCount := written loaded.attemptCount new.attemptCount stored.attemptCount
  maxAttempts := written loaded.maxAttempts new.maxAttempts stored.maxAttempts
  startedAt := written loaded.startedAt new.startedAt stored.startedAt
  finishedAt := written loaded.finishedAt new.finishedAt stored.finishedAt
  errorMessage := written loaded.errorMessage new.errorMessage stored.errorMessage

/-- The committed row.  `marks` counts the executions that committed their first transaction, and
`succeeded` says that one has recorded `succeeded`; the code has neither. -/
structure SharedJob where
  row : Job
  marks : ℕ
  succeeded : Bool
  deriving DecidableEq

/-- Where an execution is. -/
inductive ExecutionPhase where
  | fresh
  | loaded (job : Job)
  /-- The row is marked as running; the handler runs. -/
  | handling (held : Claim)
  /-- The `try` block is over. -/
  | resolved (held : Claim) (outcome : HandlerOutcome)
  | reloaded (held : Claim) (outcome : HandlerOutcome) (job : Job)
  | finished
  deriving DecidableEq

inductive ExecutionStep where
  | load
  | mark (now : Instant)
  | handle (outcome : HandlerOutcome)
  | reload
  | record (now : Instant)
  /-- The process dies, or a query or a commit of `run_job` fails. -/
  | stop
  deriving DecidableEq

namespace Runner

/-- The status an outcome is recorded as. -/
def outcomeStatus (held : Claim) : HandlerOutcome → JobStatus
  | .returns => .succeeded
  | .permanent _ => .deadLetter
  | .raises _ => if held.maxAttempts ≤ held.attempt then .deadLetter else .failed

theorem outcomeRow_status (now : Instant) (held : Claim) (outcome : HandlerOutcome) (job : Job) :
    (outcomeRow now held outcome job).status = outcomeStatus held outcome := by
  cases outcome <;> simp [outcomeRow, recordSuccess, recordFailure, outcomeStatus]

end Runner

open Runner

variable {ι : Type}

/-- One step of one execution. -/
def executionStep (_ : ι) (step : ExecutionStep) (shared : SharedJob) (phase : ExecutionPhase) :
    Option (SharedJob × ExecutionPhase) :=
  match step, phase with
  | .load, .fresh => some (shared, .loaded shared.row)
  | .mark now, .loaded job =>
      some ({ shared with
        row := flushJob job (running now job) shared.row
        marks := shared.marks + 1 }, .handling (claim (running now job)))
  | .handle outcome, .handling held => some (shared, .resolved held (resolve held.jobType outcome))
  | .reload, .resolved held outcome => some (shared, .reloaded held outcome shared.row)
  | .record now, .reloaded held outcome job =>
      some ({ shared with
        row := flushJob job (outcomeRow now held outcome job) shared.row
        succeeded := shared.succeeded || outcome = .returns }, .finished)
  | .stop, .fresh | .stop, .loaded _ | .stop, .handling _ | .stop, .resolved .. |
      .stop, .reloaded .. => some (shared, .finished)
  | _, _ => none

/-- A job has just been enqueued, and no execution has begun. -/
def executionsStart (jobType : String) (payload : Json) (maxAttempts : ℕ) :
    Pool ι SharedJob ExecutionPhase :=
  ⟨⟨enqueuedJob jobType payload maxAttempts, 0, false⟩, fun _ => .fresh⟩

/-! ## An execution on its own

Without other commits the loaded row is the one the UPDATE meets, so the columns that are sent make up the
row of `runJob`. -/

@[simp] theorem flushJob_loaded (loaded new : Job) : flushJob loaded new loaded = new := by
  simp [flushJob]

/-- Undisturbed, the steps of an execution are those of `runJob`. -/
theorem runJob_alone (i : ι) (attempt : Attempt) {key : JobId} {jobs : JobTable} {shared : SharedJob}
    (h : jobs.lookup key = some shared.row) :
    ∃ after, exec (Pool.solo executionStep i) (shared, .fresh)
        [.load, .mark attempt.startedAt, .handle attempt.outcome, .reload,
          .record attempt.finishedAt] = some (after, .finished) ∧
      (runJob attempt key jobs).finished.lookup key = some after.row ∧
      after.marks = shared.marks + 1 := by
  refine ⟨_, rfl, ?_, rfl⟩
  rw [(runJob_spec h attempt).2.1]
  simp [claim, running]

/-! ## Executions that do not get in each other's way

The invariant of the row, and the one of an execution; a step in order keeps both, for the execution that
takes it and for the others. -/

/-- `failed` or `dead_letter` -/
def JobStatus.IsFailure (status : JobStatus) : Prop := status = .failed ∨ status = .deadLetter

/-- Once a success is recorded the row is not one of a failure, and `attempt_count` counts the
executions that marked it. -/
structure SharedJob.Settled (shared : SharedJob) : Prop where
  success_final : shared.succeeded = true → ¬ shared.row.status.IsFailure
  attempts_counted : shared.row.attemptCount = shared.marks

/-- The execution is on its way to set the status to that of a failure. -/
def ExecutionPhase.AboutToFail : ExecutionPhase → Prop
  | .resolved _ outcome => outcome ≠ .returns
  | .reloaded held outcome job => outcome ≠ .returns ∧ job.status ≠ outcomeStatus held outcome
  | _ => False

instance (phase : ExecutionPhase) : Decidable phase.AboutToFail :=
  match phase with
  | .resolved _ outcome => inferInstanceAs (Decidable (outcome ≠ .returns))
  | .reloaded .. => inferInstanceAs (Decidable (_ ∧ _))
  | .fresh | .loaded _ | .handling _ | .finished => isFalse id

/-- **The condition on a step.**  A row is marked as running while its `attempt_count` is still the
one loaded; no handler fails once a success is recorded; and no success is recorded while another
execution is about to set the status to that of a failure. -/
def StepInOrder (s : Pool ι SharedJob ExecutionPhase) (e : ι × ExecutionStep) : Prop :=
  match e.2, s.proc e.1 with
  | .mark _, .loaded job => s.shared.row.attemptCount = job.attemptCount
  | .handle outcome, .handling held =>
      resolve held.jobType outcome ≠ .returns → s.shared.succeeded = false
  | .record _, .reloaded _ .returns _ => ∀ j, j ≠ e.1 → ¬ (s.proc j).AboutToFail
  | _, _ => True

instance [Fintype ι] [DecidableEq ι] (s : Pool ι SharedJob ExecutionPhase) (e : ι × ExecutionStep) :
    Decidable (StepInOrder s e) := by
  unfold StepInOrder
  split
  · exact inferInstanceAs (Decidable (_ = _))
  · exact inferInstanceAs (Decidable (_ → _))
  · exact inferInstanceAs (Decidable (∀ j, j ≠ e.1 → _))
  · exact isTrue trivial

/-- The row, beside `Settled`: it is `succeeded` only if a success was recorded. -/
structure SharedJob.Orderly (shared : SharedJob) : Prop extends shared.Settled where
  of_succeeded : shared.row.status = .succeeded → shared.succeeded = true

/-- What holds of an execution. -/
structure ExecutionPhase.Orderly (shared : SharedJob) (phase : ExecutionPhase) : Prop where
  not_aboutToFail : shared.succeeded = true → ¬ phase.AboutToFail
  of_reloaded : ∀ held outcome job, phase = .reloaded held outcome job → job.status = .succeeded →
    shared.succeeded = true

variable {shared shared' : SharedJob} {phase phase' : ExecutionPhase} {i : ι} {job : Job}
  {held : Claim} {outcome : HandlerOutcome} {now : Instant}

theorem isFailure_outcomeStatus :
    (outcomeStatus held outcome).IsFailure ↔ outcome ≠ .returns := by
  cases outcome with
  | returns => simp [outcomeStatus, JobStatus.IsFailure]
  | permanent exc => simp [outcomeStatus, JobStatus.IsFailure]
  | raises exc =>
      rw [outcomeStatus]
      split_ifs <;> simp [JobStatus.IsFailure]

/-- Marking keeps the row orderly when no other execution marked it since the load. -/
theorem orderly_mark (h : shared.Orderly) (hcount : shared.row.attemptCount = job.attemptCount) :
    SharedJob.Orderly { shared with
      row := flushJob job (running now job) shared.row, marks := shared.marks + 1 } := by
  have hstatus : written job.status .running shared.row.status = .running ∨
      written job.status .running shared.row.status = shared.row.status := written_or _ _ _
  refine ⟨⟨fun hsucceeded => ?_, ?_⟩, ?_⟩
  · show ¬ (written job.status .running shared.row.status).IsFailure
    rcases hstatus with hnew | hkept
    · simp [hnew, JobStatus.IsFailure]
    · rw [hkept]
      exact h.success_final hsucceeded
  · show written job.attemptCount (job.attemptCount + 1) shared.row.attemptCount = shared.marks + 1
    rw [written_of_ne (by omega), ← hcount, h.attempts_counted]
  · show written job.status .running shared.row.status = .succeeded → _
    rcases hstatus with hnew | hkept
    · simp [hnew]
    · rw [hkept]
      exact h.of_succeeded

/-- Recording keeps the row orderly when the execution that does it is. -/
theorem orderly_record (h : shared.Orderly)
    (hphase : (ExecutionPhase.reloaded held outcome job).Orderly shared) :
    SharedJob.Orderly { shared with
      row := flushJob job (outcomeRow now held outcome job) shared.row
      succeeded := shared.succeeded || outcome = .returns } := by
  have hstatus : (flushJob job (outcomeRow now held outcome job) shared.row).status
      = written job.status (outcomeStatus held outcome) shared.row.status := by
    rw [flushJob, outcomeRow_status]
  have hattempts : (flushJob job (outcomeRow now held outcome job) shared.row).attemptCount
      = shared.row.attemptCount := by
    simp [flushJob, attempts_outcomeRow]
  by_cases hreturns : outcome = .returns
  · subst hreturns
    have hfinal : ¬ (written job.status .succeeded shared.row.status).IsFailure := by
      by_cases hloaded : job.status = .succeeded
      · rw [hloaded, written_same]
        exact h.success_final (hphase.of_reloaded _ _ _ rfl hloaded)
      · simp [written_of_ne hloaded, JobStatus.IsFailure]
    refine ⟨⟨fun _ => ?_, hattempts.trans h.attempts_counted⟩, fun _ => by simp⟩
    rw [hstatus]
    exact hfinal
  · have hfailure : (outcomeStatus held outcome).IsFailure := isFailure_outcomeStatus.mpr hreturns
    refine ⟨⟨fun hsucceeded => ?_, hattempts.trans h.attempts_counted⟩, fun hrow => ?_⟩
    · have hsucceeded : shared.succeeded = true := by simpa [hreturns] using hsucceeded
      -- the status is the one the execution loaded, so that its UPDATE leaves it alone
      have hloaded : job.status = outcomeStatus held outcome := by
        by_contra hne
        exact hphase.not_aboutToFail hsucceeded ⟨hreturns, hne⟩
      rw [hstatus, hloaded, written_same]
      exact h.success_final hsucceeded
    · have hrow : written job.status (outcomeStatus held outcome) shared.row.status = .succeeded :=
        hstatus.symm.trans hrow
      rcases written_or job.status (outcomeStatus held outcome) shared.row.status with hnew | hkept
      · rw [← hnew, hrow] at hfailure
        simp [JobStatus.IsFailure] at hfailure
      · simp [h.of_succeeded (hkept.symm.trans hrow)]

/-- The moves of an execution. -/
inductive ExecutionMove (shared : SharedJob) : ExecutionPhase → ExecutionStep → SharedJob →
    ExecutionPhase → Prop
  | load : ExecutionMove shared .fresh .load shared (.loaded shared.row)
  | mark (job : Job) (now : Instant) : ExecutionMove shared (.loaded job) (.mark now)
      { shared with
        row := flushJob job (running now job) shared.row, marks := shared.marks + 1 }
      (.handling (claim (running now job)))
  | handle (held : Claim) (outcome : HandlerOutcome) :
      ExecutionMove shared (.handling held) (.handle outcome) shared
        (.resolved held (resolve held.jobType outcome))
  | reload (held : Claim) (outcome : HandlerOutcome) :
      ExecutionMove shared (.resolved held outcome) .reload shared
        (.reloaded held outcome shared.row)
  | record (held : Claim) (outcome : HandlerOutcome) (job : Job) (now : Instant) :
      ExecutionMove shared (.reloaded held outcome job) (.record now)
        { shared with
          row := flushJob job (outcomeRow now held outcome job) shared.row
          succeeded := shared.succeeded || outcome = .returns } .finished
  | stop (phase : ExecutionPhase) : ExecutionMove shared phase .stop shared .finished

theorem executionStep_move {step : ExecutionStep}
    (h : executionStep i step shared phase = some (shared', phase')) :
    ExecutionMove shared phase step shared' phase' := by
  unfold executionStep at h
  split at h
  all_goals cases h
  all_goals constructor

theorem orderly_of_not_reloaded (hphase : ¬ phase.AboutToFail)
    (hreloaded : ∀ held outcome job, phase ≠ .reloaded held outcome job) : phase.Orderly shared :=
  ⟨fun _ => hphase, fun _ _ _ h => absurd h (hreloaded _ _ _)⟩

theorem ExecutionPhase.Orderly.of_succeeded_eq (h : phase.Orderly shared)
    (heq : shared'.succeeded = shared.succeeded) : phase.Orderly shared' := by
  refine ⟨fun hsucceeded => h.not_aboutToFail (heq ▸ hsucceeded), ?_⟩
  intro held outcome job hphase hloaded
  rw [heq]
  exact h.of_reloaded held outcome job hphase hloaded

/-- **One step in order.** -/
theorem orderly_step (s : Pool ι SharedJob ExecutionPhase) (i : ι) (step : ExecutionStep)
    (shared' : SharedJob) (phase' : ExecutionPhase)
    (hs : s.Holds SharedJob.Orderly fun _ => ExecutionPhase.Orderly) (hc : StepInOrder s (i, step))
    (h : executionStep i step s.shared (s.proc i) = some (shared', phase')) :
    shared'.Orderly ∧ phase'.Orderly shared' ∧
      ∀ j, j ≠ i → (s.proc j).Orderly shared' := by
  have hshared := hs.shared
  have hself := hs.proc i
  have hothers : ∀ j, j ≠ i → (s.proc j).Orderly s.shared := fun j _ => hs.proc j
  have hmove := executionStep_move h
  rw [StepInOrder] at hc
  revert hc hself hmove
  generalize s.proc i = phase
  intro hc hself hmove
  cases hmove with
  | load =>
      exact ⟨hshared, orderly_of_not_reloaded id (by simp), hothers⟩
  | mark job now =>
      exact ⟨orderly_mark hshared hc, orderly_of_not_reloaded id (by simp),
        fun j hj => (hothers j hj).of_succeeded_eq rfl⟩
  | handle held outcome =>
      refine ⟨hshared, ⟨fun hsucceeded hfails => ?_, by simp⟩, hothers⟩
      simp [hc hfails] at hsucceeded
  | reload held outcome =>
      refine ⟨hshared, ⟨fun hsucceeded hfails => ?_, ?_⟩, hothers⟩
      · exact hself.not_aboutToFail hsucceeded hfails.1
      · rintro _ _ _ ⟨⟩ hloaded
        exact hshared.of_succeeded hloaded
  | record held outcome job now =>
      refine ⟨orderly_record hshared hself, orderly_of_not_reloaded id (by simp), fun j hj => ?_⟩
      by_cases hreturns : outcome = .returns
      · subst hreturns
        exact ⟨fun _ => hc j hj, fun _ _ _ _ _ => by simp⟩
      · exact (hothers j hj).of_succeeded_eq (by simp [hreturns])
  | stop phase =>
      exact ⟨hshared, orderly_of_not_reloaded id (by simp), hothers⟩

variable [DecidableEq ι]

/-- **Executions in order.**  In every run all of whose steps are in order, a recorded success is
final and `attempt_count` counts the executions that marked the job, in every state reached. -/
theorem settled_in_order (jobType : String) (payload : Json) (maxAttempts : ℕ)
    {events : List (ι × ExecutionStep)} {s : Pool ι SharedJob ExecutionPhase}
    (hc : Along (Pool.step executionStep) StepInOrder (executionsStart jobType payload maxAttempts)
      events)
    (h : exec (Pool.step executionStep) (executionsStart jobType payload maxAttempts) events = some s) :
    s.shared.Settled := by
  have hholds : s.Holds SharedJob.Orderly fun _ => ExecutionPhase.Orderly := by
    refine Pool.exec_holds_along orderly_step ⟨?_, fun i => ?_⟩ hc h
    · exact ⟨⟨fun hsucceeded => absurd hsucceeded Bool.false_ne_true, rfl⟩, fun hstatus =>
        absurd hstatus (by simp [executionsStart, enqueuedJob])⟩
    · exact orderly_of_not_reloaded id (by simp [executionsStart])
  exact hholds.shared.toSettled

/-! ## Executions that do

What follows a step out of order, and the two workers. -/

theorem not_settled_of_isFailure (hsucceeded : shared.succeeded = true)
    (hfailure : shared.row.status.IsFailure) : ¬ shared.Settled :=
  fun h => h.success_final hsucceeded hfailure

/-- An execution that is about to fail gets there on its own. -/
theorem exists_failure (s : Pool ι SharedJob ExecutionPhase) (hsucceeded : s.shared.succeeded = true)
    (j : ι) (hfails : (s.proc j).AboutToFail) :
    ∃ events t, exec (Pool.step executionStep) s events = some t ∧ ¬ t.shared.Settled := by
  by_cases hrow : s.shared.row.status.IsFailure
  · exact ⟨[], s, rfl, not_settled_of_isFailure hsucceeded hrow⟩
  · obtain ⟨held, outcome, hreturns, steps, loaded, hstatus, hsteps⟩ : ∃ held outcome,
        outcome ≠ .returns ∧ ∃ steps loaded, loaded.status ≠ outcomeStatus held outcome ∧
        exec (Pool.solo executionStep j) (s.shared, s.proc j) steps = some ({ s.shared with
          row := flushJob loaded (outcomeRow 0 held outcome loaded) s.shared.row
          succeeded := s.shared.succeeded || outcome = .returns }, .finished) := by
      generalize s.proc j = phase at hfails ⊢
      cases phase with
      | resolved held outcome =>
          refine ⟨held, outcome, hfails, [.reload, .record 0], s.shared.row, ?_, rfl⟩
          rintro heq
          exact hrow (heq ▸ isFailure_outcomeStatus.mpr hfails)
      | reloaded held outcome job => exact ⟨held, outcome, hfails.1, [.record 0], job, hfails.2, rfl⟩
      | fresh | loaded _ | handling _ | finished => exact hfails.elim
    refine ⟨steps.map (Prod.mk j), _, Pool.exec_solo hsteps, ?_⟩
    refine not_settled_of_isFailure (by simp [hsucceeded]) ?_
    have hwritten : (flushJob loaded (outcomeRow 0 held outcome loaded) s.shared.row).status
        = outcomeStatus held outcome := by
      rw [flushJob, outcomeRow_status, written_of_ne hstatus]
    rw [hwritten]
    exact isFailure_outcomeStatus.mpr hreturns

/-- **The condition is needed.**  From where a step was not in order, one execution gets to a state
that is not settled without any other step. -/
theorem exists_unsettled {s s' : Pool ι SharedJob ExecutionPhase} {e : ι × ExecutionStep}
    (hs : s.Holds SharedJob.Orderly fun _ => ExecutionPhase.Orderly) (hc : ¬ StepInOrder s e)
    (h : Pool.step executionStep s e = some s') :
    ∃ events t, exec (Pool.step executionStep) s' events = some t ∧ ¬ t.shared.Settled := by
  obtain ⟨i, step⟩ := e
  obtain ⟨shared', phase', hact, rfl⟩ := Pool.step_eq_some.mp h
  have hmove := executionStep_move hact
  rw [StepInOrder] at hc
  generalize hphase : s.proc i = phase at hc hmove
  cases hmove with
  | load | reload | stop => exact absurd trivial hc
  | mark job now =>
      refine ⟨[], _, rfl, fun hsettled => hc ?_⟩
      have hmarks : written job.attemptCount (job.attemptCount + 1) s.shared.row.attemptCount
          = s.shared.marks + 1 := hsettled.attempts_counted
      rw [written_of_ne (by omega)] at hmarks
      exact hs.shared.attempts_counted.trans (Nat.succ_injective hmarks).symm
  | handle held outcome =>
      obtain ⟨hfails, hsucceeded⟩ : resolve held.jobType outcome ≠ .returns ∧
          s.shared.succeeded = true := by simpa using hc
      refine exists_failure _ hsucceeded i ?_
      show (Function.update s.proc i _ i).AboutToFail
      rw [Function.update_self]
      exact hfails
  | record held outcome job now =>
      by_cases hreturns : outcome = .returns
      · subst hreturns
        obtain ⟨j, hj, hfails⟩ : ∃ j, j ≠ i ∧ (s.proc j).AboutToFail := by simpa using hc
        refine exists_failure _ (by simp) j ?_
        simpa [hj] using hfails
      · cases outcome with
        | returns => exact absurd rfl hreturns
        | permanent exc | raises exc => exact absurd trivial hc

/-- The steps of one execution. -/
def executionSteps (i : Fin 2) (outcome : HandlerOutcome) : List (Fin 2 × ExecutionStep) :=
  [(i, .load), (i, .mark 1), (i, .handle outcome), (i, .reload), (i, .record 2)]

/-- The first attempt meets a rate limit, and the second one succeeds. -/
def retriedEvents : List (Fin 2 × ExecutionStep) :=
  executionSteps 0 (.raises ⟨"SourceFetchError", "429"⟩) ++ executionSteps 1 .returns

theorem settled_in_order_retry : ∃ s,
    exec (Pool.step executionStep) (executionsStart "google_sync" (.obj []) 3) retriedEvents = some s ∧
    s.shared.row.status = .succeeded ∧ s.shared.Settled := by
  have hrun : exec (Pool.step executionStep) (executionsStart "google_sync" (.obj []) 3) retriedEvents
      = some _ := rfl
  exact ⟨_, hrun, rfl, settled_in_order "google_sync" (.obj []) 3 (by decide) hrun⟩

/-- Two workers on one job: both load the row before either marks it, one succeeds, and the other one
fails after that. -/
def overlappingEvents : List (Fin 2 × ExecutionStep) :=
  [(0, .load), (1, .load), (0, .mark 1), (1, .mark 1), (0, .handle .returns), (0, .reload),
    (0, .record 2), (1, .handle (.raises ⟨"SourceFetchError", "429"⟩)), (1, .reload), (1, .record 3)]

/-- The success is overwritten, and one of the two executions is not counted. -/
theorem late_failure_overwrites_success : ∃ s,
    exec (Pool.step executionStep) (executionsStart "google_sync" (.obj []) 3) overlappingEvents
      = some s ∧
    s.shared.succeeded = true ∧ s.shared.row.status = .failed ∧
    s.shared.marks = 2 ∧ s.shared.row.attemptCount = 1 :=
  ⟨_, rfl, by decide⟩

end ReviewSignal
