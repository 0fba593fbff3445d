import ReviewSignal.Worker.Runner
import Mathlib.Order.Bounds.Basic

/-!
# The lifecycle of one job

RQ executes `run_job` once, and again after every execution that raised while the `Retry` of the job
has retries left.  `jobs.max_attempts` counts executions and `Retry.max` counts retries; the
lifecycle below is right because the two differ by exactly one (`max_retryPolicy`), so the execution
that exhausts the attempts is the one RQ does not repeat.

**The lifecycle** (`job_lifecycle`).  For every sequence of outcomes the executions number the least `n`
whose outcome is a return or a `PermanentJobError`, capped at `max_attempts`.  Each of them commits
`running` and then `failed`, but for the last, whose status is final.

**How it is proved.**  A `Chain` is what the executions from some attempt on amount to; `chain_executions`
builds the chain of a job by induction on the retries left, with the sum of attempts behind and retries
left as the invariant.

Executions follow each other here, and none is cut short.  That they happen at all is a matter of the
scheduler (`Stranding`), and of workers that do not die (`CrashRecovery`).
-/

namespace ReviewSignal

open Runner

/-- The executions RQ makes of a job with some retries left, the `n`-th attempt first. -/
def executions (attempts : ℕ → Attempt) (key : JobId) : ℕ → ℕ → JobTable → List Execution
  | 0, n, jobs => [runJob (attempts n) key jobs]
  | retriesLeft + 1, n, jobs =>
      let execution := runJob (attempts n) key jobs
      execution ::
        if execution.raised.isSome then executions attempts key retriesLeft (n + 1) execution.finished
        else []

/-- The executions of a job from its `enqueue` on.  Attempts count from one. -/
def lifecycle (attempts : ℕ → Attempt) (key : JobId) (jobType : String) (payload : Json)
    (maxAttempts : ℕ) (jobs : JobTable) : List Execution :=
  executions attempts key ((retryPolicy maxAttempts).elim 0 (·.max)) 1
    (jobs.insert key (enqueuedJob jobType payload maxAttempts))

/-- The statuses the executions commit, in order. -/
def statusWrites (key : JobId) (trace : List Execution) : List (Option JobStatus) :=
  trace.flatMap fun execution =>
    [(execution.started.lookup key).map (·.status), (execution.finished.lookup key).map (·.status)]

/-- The last status of a job whose last outcome is given. -/
def finalStatus (outcome : HandlerOutcome) : JobStatus :=
  if outcome = .returns then .succeeded else .deadLetter

/-- A chain of executions of a job that had `a` attempts behind it: every execution but the last
leaves `failed`, and the last one leaves the final status and the count. -/
structure Chain (key : JobId) (outcome : ℕ → HandlerOutcome) (a retriesLeft : ℕ)
    (trace : List Execution) : Prop where
  pos : 1 ≤ trace.length
  le : trace.length ≤ retriesLeft + 1
  raised : ∀ i, 1 ≤ i → i < trace.length → (outcome (a + i)).reraised = true
  last : (outcome (a + trace.length)).reraised = false ∨ trace.length = retriesLeft + 1
  writes : statusWrites key trace
    = (List.replicate (trace.length - 1) [some .running, some .failed]).flatten
      ++ [some .running, some (finalStatus (outcome (a + trace.length)))]
  row : ∃ execution row, trace.getLast? = some execution ∧
    execution.finished.lookup key = some row ∧ row.attemptCount = a + trace.length ∧
    row.status = finalStatus (outcome (a + trace.length)) ∧
    (row.status = .succeeded → row.errorMessage = none)

variable {attempts : ℕ → Attempt} {key : JobId} {jobs : JobTable} {job : Job} {a retriesLeft : ℕ}

/-- What the row of an execution says: the count goes up by one, and the status is final unless the
outcome is an ordinary exception with attempts left. -/
theorem outcomeRow_running (now now' : Instant) (outcome : HandlerOutcome)
    (hmax : job.maxAttempts = a + 1 + retriesLeft) (ha : job.attemptCount = a) :
    let row := outcomeRow now' (claim (running now job)) outcome (running now job)
    row.attemptCount = a + 1 ∧ row.maxAttempts = job.maxAttempts ∧ row.jobType = job.jobType ∧
      (row.status = .succeeded → row.errorMessage = none) ∧
      row.status = if outcome.reraised = true ∧ 0 < retriesLeft then .failed
        else finalStatus outcome := by
  cases outcome with
  | returns =>
      simp [outcomeRow, recordSuccess, running, ha, finalStatus, HandlerOutcome.reraised]
  | permanent exc =>
      simp [outcomeRow, recordFailure, running, claim, ha, finalStatus, HandlerOutcome.reraised]
  | raises exc =>
      have hiff : job.maxAttempts ≤ a + 1 ↔ ¬ 0 < retriesLeft := by omega
      by_cases hleft : 0 < retriesLeft <;>
        simp [outcomeRow, recordFailure, running, claim, ha, finalStatus, HandlerOutcome.reraised,
          hiff, hleft]

/-- One execution that ends the chain. -/
theorem chain_single {outcome : ℕ → HandlerOutcome} {execution : Execution} {during after : Job}
    (hduring : execution.started.lookup key = some during) (hrunning : during.status = .running)
    (hafter : execution.finished.lookup key = some after)
    (hstatus : after.status = finalStatus (outcome (a + 1))) (hcount : after.attemptCount = a + 1)
    (hmessage : after.status = .succeeded → after.errorMessage = none)
    (hlast : (outcome (a + 1)).reraised = false ∨ retriesLeft = 0) :
    Chain key outcome a retriesLeft [execution] where
  pos := le_rfl
  le := by simp
  raised i hi hlt := by simp only [List.length_singleton] at hlt; omega
  last := by
    rcases hlast with h | h
    · exact .inl h
    · exact .inr (by simp [h])
  writes := by simp [statusWrites, hduring, hafter, hrunning, hstatus]
  row := ⟨execution, after, rfl, hafter, hcount, hstatus, hmessage⟩

/-- A failed execution in front of a chain. -/
theorem Chain.cons {outcome : ℕ → HandlerOutcome} {execution : Execution} {trace : List Execution}
    {during after : Job} (h : Chain key outcome (a + 1) retriesLeft trace)
    (hduring : execution.started.lookup key = some during) (hrunning : during.status = .running)
    (hafter : execution.finished.lookup key = some after) (hfailed : after.status = .failed)
    (hraised : (outcome (a + 1)).reraised = true) :
    Chain key outcome a (retriesLeft + 1) (execution :: trace) := by
  have hpos := h.pos
  have hshift : a + (execution :: trace).length = a + 1 + trace.length := by
    simp only [List.length_cons]
    omega
  refine ⟨by simp, by simpa using h.le, ?_, ?_, ?_, ?_⟩
  · intro i hi hlt
    simp only [List.length_cons] at hlt
    by_cases hone : i = 1
    · subst hone
      exact hraised
    · have hrest := h.raised (i - 1) (by omega) (by omega)
      rwa [show a + 1 + (i - 1) = a + i by omega] at hrest
  · rw [hshift]
    rcases h.last with hends | hfull
    · exact .inl hends
    · exact .inr (by rw [List.length_cons, hfull])
  · have hlen : (execution :: trace).length - 1 = (trace.length - 1) + 1 := by
      simp only [List.length_cons]
      omega
    rw [hshift, hlen, List.replicate_succ, List.flatten_cons, List.append_assoc, ← h.writes]
    simp [statusWrites, hduring, hafter, hrunning, hfailed]
  · obtain ⟨last, row, hlast, hrow, hcount, hstatus, hmessage⟩ := h.row
    refine ⟨last, row, ?_, hrow, by rw [hcount, hshift], by rw [hstatus, hshift], hmessage⟩
    rw [List.getLast?_cons, hlast]
    rfl

/-- **Every chain RQ makes.**  The induction is on the retries left; the attempts behind the job and
the retries left always add up to its limit. -/
theorem chain_executions {jobType : String} :
    ∀ (retriesLeft a : ℕ) (jobs : JobTable) (job : Job), jobs.lookup key = some job →
      job.jobType = jobType → job.attemptCount = a → job.maxAttempts = a + 1 + retriesLeft →
      Chain key (fun n => resolve jobType (attempts n).outcome) a retriesLeft
        (executions attempts key retriesLeft (a + 1) jobs) := by
  intro retriesLeft
  induction retriesLeft with
  | zero =>
      intro a jobs job hjob htype ha hmax
      subst htype
      obtain ⟨hduring, hafter, -⟩ := runJob_spec hjob (attempts (a + 1))
      obtain ⟨hcount, -, -, hmessage, hstatus⟩ := outcomeRow_running (attempts (a + 1)).startedAt
        (attempts (a + 1)).finishedAt (resolve job.jobType (attempts (a + 1)).outcome) hmax ha
      rw [if_neg fun h => absurd h.2 (lt_irrefl 0)] at hstatus
      exact chain_single hduring rfl hafter hstatus hcount hmessage (.inr rfl)
  | succ retriesLeft ih =>
      intro a jobs job hjob htype ha hmax
      subst htype
      obtain ⟨hduring, hafter, hraised⟩ := runJob_spec hjob (attempts (a + 1))
      obtain ⟨hcount, hmax', htype', hmessage, hstatus⟩ := outcomeRow_running
        (attempts (a + 1)).startedAt (attempts (a + 1)).finishedAt
        (resolve job.jobType (attempts (a + 1)).outcome) hmax ha
      rw [executions]
      by_cases hexc : (runJob (attempts (a + 1)) key jobs).raised.isSome = true
      · have hordinary := hraised.symm.trans hexc
        rw [if_pos ⟨hordinary, Nat.succ_pos _⟩] at hstatus
        rw [if_pos hexc]
        have hrest := ih (a + 1) (runJob (attempts (a + 1)) key jobs).finished _ hafter htype' hcount
          (by rw [hmax', hmax]; omega)
        exact hrest.cons hduring rfl hafter hstatus hordinary
      · rw [if_neg hexc]
        rw [hraised] at hexc
        rw [if_neg fun h => hexc h.1] at hstatus
        exact chain_single hduring rfl hafter hstatus hcount hmessage
          (.inl (Bool.eq_false_iff.mpr hexc))

/-- **The lifecycle of a job.**  The executions number the least `n` whose outcome is a return or a
`PermanentJobError`, capped at `max_attempts`.  Each of them commits `running` and then `failed`,
but for the last, which commits `succeeded` (with no error message) after a return and `dead_letter`
otherwise; and `attempt_count` counts them. -/
theorem job_lifecycle (attempts : ℕ → Attempt) (key : JobId) (jobType : String) (payload : Json)
    {maxAttempts : ℕ} (hmax : 1 ≤ maxAttempts) (jobs : JobTable) :
    let trace := lifecycle attempts key jobType payload maxAttempts jobs
    let outcome := fun n => resolve jobType (attempts n).outcome
    IsLeast {n | 1 ≤ n ∧ ((outcome n).reraised = false ∨ n = maxAttempts)} trace.length ∧
    statusWrites key trace
      = (List.replicate (trace.length - 1) [some .running, some .failed]).flatten
        ++ [some .running, some (finalStatus (outcome trace.length))] ∧
    ∃ execution row, trace.getLast? = some execution ∧
      execution.finished.lookup key = some row ∧ row.attemptCount = trace.length ∧
      row.status = finalStatus (outcome trace.length) ∧
      (row.status = .succeeded → row.errorMessage = none) := by
  intro trace outcome
  have hretries := max_retryPolicy hmax
  have hchain : Chain key outcome 0 ((retryPolicy maxAttempts).elim 0 (·.max)) trace := by
    refine chain_executions _ 0 _ (enqueuedJob jobType payload maxAttempts)
      (Finmap.lookup_insert _) rfl rfl ?_
    show maxAttempts = _
    omega
  obtain ⟨hpos, hle, hraised, hlast, hwrites, hrow⟩ := hchain
  rw [hretries] at hle hlast
  simp only [Nat.zero_add] at hraised hlast hwrites hrow
  refine ⟨⟨⟨hpos, hlast⟩, ?_⟩, hwrites, hrow⟩
  rintro n ⟨hn, hends⟩
  by_contra hlt
  have hordinary := hraised n hn (not_le.mp hlt)
  rcases hends with hends | hfull
  · rw [hordinary] at hends
    cases hends
  · omega

/-- The first attempt meets a rate limit, the second one a revoked grant. -/
def flakyThenPermanent (n : ℕ) : Attempt where
  startedAt := n
  finishedAt := n + 1
  outcome :=
    if n = 1 then .raises ⟨"SourceFetchError", "429"⟩ else .permanent ⟨"PermanentJobError", "revoked"⟩

theorem job_lifecycle_second_attempt :
    let trace := lifecycle flakyThenPermanent 7 "google_sync" (.obj []) 3 ∅
    let outcome := fun n => resolve "google_sync" (flakyThenPermanent n).outcome
    IsLeast {n | 1 ≤ n ∧ ((outcome n).reraised = false ∨ n = 3)} trace.length ∧
    statusWrites 7 trace
      = (List.replicate (trace.length - 1) [some .running, some .failed]).flatten
        ++ [some .running, some (finalStatus (outcome trace.length))] ∧
    ∃ execution row, trace.getLast? = some execution ∧
      execution.finished.lookup 7 = some row ∧ row.attemptCount = trace.length ∧
      row.status = finalStatus (outcome trace.length) ∧
      (row.status = .succeeded → row.errorMessage = none) :=
  job_lifecycle flakyThenPermanent 7 "google_sync" (.obj []) (by decide) ∅

example : statusWrites 7 (lifecycle flakyThenPermanent 7 "google_sync" (.obj []) 3 ∅)
    = [some .running, some .failed, some .running, some .deadLetter] := by
  decide

end ReviewSignal
