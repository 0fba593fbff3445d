import ReviewSignal.Worker.Redelivery

/-!
# Jobs whose executions are cut short

What is left of a job once RQ will not execute it again, whatever execution a worker died in and
whatever query or commit of the runner failed.

An execution that commits nothing leaves the row as it is, so the row tells of the last execution
that committed its first transaction (`rowAfter_terminal`).

**When a job ends** (`crash_recovery_iff`).  Its row is `succeeded` or `dead_letter` exactly when that last
execution recorded its outcome, and, if the outcome is an ordinary exception, all `max_attempts` executions
had marked the row: `_record_failure` compares the attempts the row counts with their bound, and an
execution that did not reach its first commit is not among them, though RQ has used a retry on it.

**When it does not** (`killed_in_last_attempt`).  A worker killed in the last execution leaves the job
`running`.  No code looks for rows that say so, and RQ has no retry left.

The condition speaks of fates and of how handlers end, which are choices of the environment, so it can be
read off before anything is executed.
-/

namespace ReviewSignal

/-- `succeeded` or `dead_letter` -/
def JobStatus.Terminal (status : JobStatus) : Prop := status = .succeeded ∨ status = .deadLetter

variable {σ : Type}

/-- The status of a job once RQ has made its last execution. -/
def lastStatus (key : JobId) (trace : List (Delivery σ)) : Option JobStatus :=
  (trace.getLast?.bind fun last => last.after.jobs.lookup key).map (·.status)

/-- It is a terminal one. -/
def EndsTerminal (key : JobId) (trace : List (Delivery σ)) : Prop :=
  ∃ status, lastStatus key trace = some status ∧ status.Terminal

/-- The executions that committed their first transaction. -/
def marked (jobType : String) (trace : List (Delivery σ)) : List (Delivery σ) :=
  trace.filter fun delivery => delivery.progress jobType ≠ .unmarked

/-- **The condition.**  The last execution that marked the row as running recorded its outcome, and if
that outcome is an ordinary exception, all `max_attempts` executions marked the row. -/
def LastMarkRecorded (jobType : String) (maxAttempts : ℕ) (trace : List (Delivery σ)) : Prop :=
  ∃ delivery o, (marked jobType trace).getLast? = some delivery ∧
    delivery.progress jobType = .recorded o ∧
    (o.reraised = true → (marked jobType trace).length = maxAttempts)

/-! ## The row after some executions

Executions change the row of their job one after the other, so their effect is a fold; what the last row says
is read from its end. -/

/-- The row some executions leave. -/
def rowAfter (jobType : String) (trace : List (Delivery σ)) (job : Job) : Job :=
  trace.foldl (fun row delivery => (delivery.progress jobType).row delivery.runner row) job

variable {jobType : String} {job row : Job} {trace : List (Delivery σ)} {env : RunnerEnv}
  {progress : Progress} {chain : ChainEnv σ} {key : JobId}

theorem rowAfter_concat (trace : List (Delivery σ)) (delivery : Delivery σ) :
    rowAfter jobType (trace ++ [delivery]) job
      = (delivery.progress jobType).row delivery.runner (rowAfter jobType trace job) := by
  rw [rowAfter, List.foldl_concat]
  rfl

theorem marked_concat (trace : List (Delivery σ)) (delivery : Delivery σ) :
    marked jobType (trace ++ [delivery]) = marked jobType trace
      ++ (if delivery.progress jobType = .unmarked then [] else [delivery]) := by
  rw [marked, marked, List.filter_append]
  by_cases h : delivery.progress jobType = .unmarked <;> simp [h]

/-- The attempts count the executions that marked the row. -/
theorem rowAfter_attempts (jobType : String) (job : Job) (trace : List (Delivery σ)) :
    (rowAfter jobType trace job).maxAttempts = job.maxAttempts ∧
    (rowAfter jobType trace job).attemptCount
      = job.attemptCount + (marked jobType trace).length := by
  induction trace using List.reverseRecOn with
  | nil => exact ⟨rfl, rfl⟩
  | append_singleton trace delivery ih =>
      obtain ⟨-, hmax, hcount⟩ := row_kept delivery.runner (rowAfter jobType trace job)
        (delivery.progress jobType)
      rw [rowAfter_concat, marked_concat]
      refine ⟨hmax.trans ih.1, hcount.trans ?_⟩
      rw [ih.2]
      split_ifs <;> simp [add_assoc]

/-- An outcome is terminal unless it is an ordinary exception with attempts left. -/
theorem terminal_outcomeRow {now : Instant} {held : Claim} {o : HandlerOutcome} :
    (Runner.outcomeRow now held o job).status.Terminal ↔
      (o.reraised = true → held.maxAttempts ≤ held.attempt) := by
  cases o with
  | returns => simp [Runner.outcomeRow, Runner.recordSuccess, JobStatus.Terminal,
      HandlerOutcome.reraised]
  | permanent exc => simp [Runner.outcomeRow, Runner.recordFailure, JobStatus.Terminal,
      HandlerOutcome.reraised]
  | raises exc =>
      by_cases hlast : held.maxAttempts ≤ held.attempt <;>
        simp [Runner.outcomeRow, Runner.recordFailure, JobStatus.Terminal, HandlerOutcome.reraised,
          hlast]

/-- **What the row tells.**  The induction is on the executions, from the last one back: one that did
not mark the row changes neither side. -/
theorem rowAfter_terminal (jobType : String) (hqueued : job.status = .queued)
    (hcount : job.attemptCount = 0) (trace : List (Delivery σ)) :
    (rowAfter jobType trace job).status.Terminal ↔
      ∃ delivery o, (marked jobType trace).getLast? = some delivery ∧
        delivery.progress jobType = .recorded o ∧
        (o.reraised = true → job.maxAttempts ≤ (marked jobType trace).length) := by
  induction trace using List.reverseRecOn with
  | nil => simp [rowAfter, marked, hqueued, JobStatus.Terminal]
  | append_singleton trace delivery ih =>
      rw [rowAfter_concat, marked_concat]
      cases hprogress : delivery.progress jobType with
      | unmarked => simpa [Progress.row] using ih
      | unrecorded =>
          simp [Progress.row, Runner.running, JobStatus.Terminal, hprogress]
      | recorded o =>
          obtain ⟨hmax, hattempts⟩ := rowAfter_attempts jobType job trace
          rw [Progress.row, terminal_outcomeRow]
          simp [Runner.claim, Runner.running, hmax, hattempts, hcount, hprogress]

/-- The executions leave the row of their job as `rowAfter` says. -/
theorem redeliveries_row (chain : ChainEnv σ) (retriesLeft n : ℕ) (db : WorkerDb σ)
    (h : db.jobs.lookup key = some job) (htype : job.jobType = jobType) :
    ∃ last, (chain.redeliveries key retriesLeft n db).getLast? = some last ∧
      last.after.jobs.lookup key
        = some (rowAfter jobType (chain.redeliveries key retriesLeft n db) job) := by
  induction retriesLeft generalizing n db job with
  | zero =>
      obtain ⟨hrow, -, -⟩ := chain.deliver_spec n h
      subst htype
      exact ⟨chain.deliver key n db, rfl, hrow⟩
  | succ retriesLeft ih =>
      obtain ⟨hrow, -, -⟩ := chain.deliver_spec n h
      rw [htype] at hrow
      rw [ChainEnv.redeliveries]
      split_ifs with hended
      · exact ⟨_, rfl, hrow⟩
      · obtain ⟨htype', -, -⟩ := row_kept (chain.deliver key n db).runner job
          ((chain.deliver key n db).progress jobType)
        obtain ⟨last, hlast, hlookup⟩ := ih (n + 1) _ hrow (htype'.trans htype)
        refine ⟨last, ?_, hlookup⟩
        rw [List.getLast?_cons_of_ne_nil (chain.redeliveries_ne_nil key _ _ _)]
        exact hlast

/-- **Crash recovery.**  Once RQ will not execute a job again, its row is terminal if and only if the
last execution that marked it recorded its outcome, an ordinary exception only when all attempts
were counted. -/
theorem crash_recovery_iff (chain : ChainEnv σ) (key : JobId) (jobType : String) (payload : Json)
    {maxAttempts : ℕ} (hmax : 1 ≤ maxAttempts) (db : WorkerDb σ) :
    EndsTerminal key (chain.deliveries key jobType payload maxAttempts db) ↔
      LastMarkRecorded jobType maxAttempts
        (chain.deliveries key jobType payload maxAttempts db) := by
  let job := enqueuedJob jobType payload maxAttempts
  obtain ⟨last, hlast, hrow⟩ : ∃ last, (chain.deliveries key jobType payload maxAttempts db).getLast?
      = some last ∧ last.after.jobs.lookup key
        = some (rowAfter jobType (chain.deliveries key jobType payload maxAttempts db) job) :=
    redeliveries_row chain _ _ _ (Finmap.lookup_insert _) rfl
  have hle : (marked jobType (chain.deliveries key jobType payload maxAttempts db)).length
      ≤ maxAttempts := by
    have hlength := chain.length_redeliveries_le key ((retryPolicy maxAttempts).elim 0 (·.max)) 1
      { db with jobs := db.jobs.insert key job }
    rw [max_retryPolicy hmax] at hlength
    exact (List.length_filter_le _ _).trans hlength
  have hterminal := rowAfter_terminal jobType (show job.status = .queued from rfl) rfl
    (chain.deliveries key jobType payload maxAttempts db)
  have hstatus : lastStatus key (chain.deliveries key jobType payload maxAttempts db)
      = some (rowAfter jobType (chain.deliveries key jobType payload maxAttempts db) job).status := by
    rw [lastStatus, hlast, Option.bind_some, hrow]
    rfl
  constructor
  · rintro ⟨status, hlast', hends⟩
    obtain rfl := Option.some.inj (hstatus.symm.trans hlast')
    obtain ⟨delivery, o, hget, hprogress, hattempts⟩ := hterminal.mp hends
    exact ⟨delivery, o, hget, hprogress, fun hraised => le_antisymm hle (hattempts hraised)⟩
  · rintro ⟨delivery, o, hget, hprogress, hattempts⟩
    refine ⟨_, hstatus, hterminal.mpr ⟨delivery, o, hget, hprogress, fun hraised => ?_⟩⟩
    exact (hattempts hraised).ge

/-- Handlers without tables of their own, in executions nothing else goes wrong in. -/
def scriptedChain (handled : ℕ → Ended Exn Unit) : ChainEnv Unit where
  runner n := .steady n (n + 1)
  handler n _ _ := fun store => (handled n, store)
  meanwhile _ store := store

/-- Two attempts meet a rate limit, and the worker is killed in the third one. -/
def killedInThird (n : ℕ) : Ended Exn Unit :=
  if n = 3 then .died else .raised ⟨"SourceFetchError", "429"⟩

/-- A worker that dies in the last execution leaves its job `running` for good. -/
theorem killed_in_last_attempt :
    let trace := (scriptedChain killedInThird).deliveries 7 "google_sync" (.obj []) 3 ⟨∅, ()⟩
    trace.length = 3 ∧ lastStatus 7 trace = some .running ∧ ¬ EndsTerminal 7 trace := by
  intro trace
  have hstatus : lastStatus 7 trace = some .running := by decide
  refine ⟨by decide, hstatus, ?_⟩
  rintro ⟨status, hlast, hterminal⟩
  obtain rfl := Option.some.inj (hstatus.symm.trans hlast)
  rcases hterminal with h | h <;> cases h

/-- The worker is killed in the first attempt, and the second one succeeds. -/
def killedInFirst (n : ℕ) : Ended Exn Unit := if n = 1 then .died else .returned ()

theorem crash_recovery_iff_second_attempt :
    EndsTerminal 7 ((scriptedChain killedInFirst).deliveries 7 "google_sync" (.obj []) 3 ⟨∅, ()⟩) ↔
      LastMarkRecorded "google_sync" 3
        ((scriptedChain killedInFirst).deliveries 7 "google_sync" (.obj []) 3 ⟨∅, ()⟩) :=
  crash_recovery_iff (scriptedChain killedInFirst) 7 "google_sync" (.obj []) (by decide) ⟨∅, ()⟩

end ReviewSignal
