import ReviewSignal.Worker.Runner
import ReviewSignal.Foundations.Transition

/-!
# The queue and its workers

`enqueue` and the workers `main` starts, over one `jobs` table and one RQ queue.

RQ's side follows its documented behaviour.  A worker takes the head of the queue and executes it.
An execution that raises with retries left goes to the scheduled registry when its retry interval is
positive, and back to the queue when it is zero; with no retries left it goes to the failed registry
for good.  Jobs leave the scheduled registry only through a worker that runs a scheduler, which is
the argument `with_scheduler` of `work`.

Real time is left out: an event that time makes possible may happen at any moment.  So is every fault:
an event here is carried out whole, a recorded row with its delivery and a taken delivery with its
`running` row.  What the halves of a submission leave is the subject of `Submission`, and what those of
an execution leave that of `Redelivery`.

The model has two uses.  `Stranding` asks which jobs are left between two attempts for good, and
`SystemStatus` what the counts the status page shows are counts of.
-/

namespace ReviewSignal

open Runner

/-- An RQ job: the id `run_job` is called with, and what its `Retry` has left. -/
structure Ticket where
  key : JobId
  retriesLeft : ℕ
  retryIntervals : List ℕ
  deriving DecidableEq

/-- The RQ job of a policy. -/
def Ticket.ofRetry (key : JobId) (retry : Option Retry) : Ticket :=
  ⟨key, retry.elim 0 (·.max), retry.elim [] (·.interval)⟩

/-- A worker process, and the execution it is in the middle of. -/
structure WorkerProcess where
  withScheduler : Bool
  busy : Option (Ticket × Claim)
  deriving DecidableEq

/-- The worker `main` starts: `work()` leaves `with_scheduler` at its default. -/
def mainWorker : WorkerProcess := ⟨false, none⟩

/-- The `jobs` table, RQ's queue and scheduled registry, and the workers by process id. -/
structure System where
  jobs : JobTable
  queue : List Ticket
  scheduled : List Ticket
  workers : Finmap fun _ : ℕ => WorkerProcess

/-- Nothing enqueued, no worker started. -/
def System.empty : System := ⟨∅, [], [], ∅⟩

inductive QueueEvent where
  | startWorker (pid : ℕ)
  | enqueue (key : JobId) (jobType : String) (payload : Json) (maxAttempts : ℕ)
  | take (pid : ℕ) (now : Instant)
  | finish (pid : ℕ) (now : Instant) (outcome : HandlerOutcome)
  | promote (pid : ℕ) (index : ℕ)

namespace System

/-- What RQ does with a job whose execution raised. -/
def retry (ticket : Ticket) (s : System) : System :=
  match ticket.retriesLeft with
  | 0 => s
  | left + 1 =>
      if 0 < retryInterval ticket.retryIntervals (left + 1) then
        { s with scheduled := s.scheduled ++ [{ ticket with retriesLeft := left }] }
      else { s with queue := s.queue ++ [{ ticket with retriesLeft := left }] }

/-- A worker of the system, when it is running. -/
def setWorker (pid : ℕ) (worker : WorkerProcess) (s : System) : System :=
  { s with workers := s.workers.insert pid worker }

/-- One event. -/
def step (s : System) : QueueEvent → Option System
  | .startWorker pid =>
      if pid ∈ s.workers then none else some (s.setWorker pid mainWorker)
  | .enqueue key jobType payload maxAttempts =>
      -- `id` is a fresh UUID, and `max_attempts >= 1` is a CHECK constraint
      if key ∈ s.jobs ∨ maxAttempts < 1 then none
      else some { s with
        jobs := s.jobs.insert key (enqueuedJob jobType payload maxAttempts)
        queue := s.queue ++ [.ofRetry key (retryPolicy maxAttempts)] }
  | .take pid now =>
      match s.workers.lookup pid, s.queue with
      | some ⟨withScheduler, none⟩, ticket :: queue =>
          match begin now ticket.key s.jobs with
          | (none, jobs) => some { s with jobs, queue }
          | (some held, jobs) =>
              some ({ s with jobs, queue }.setWorker pid ⟨withScheduler, some (ticket, held)⟩)
      | _, _ => none
  | .finish pid now outcome =>
      match s.workers.lookup pid with
      | some ⟨withScheduler, some (ticket, held)⟩ =>
          let recorded := record now ticket.key held outcome s.jobs
          let s := { s with jobs := recorded.2 }.setWorker pid ⟨withScheduler, none⟩
          some (if recorded.1.isSome then s.retry ticket else s)
      | _ => none
  | .promote pid index =>
      match s.workers.lookup pid, s.scheduled[index]? with
      | some ⟨true, _⟩, some ticket =>
          some { s with queue := s.queue ++ [ticket], scheduled := s.scheduled.eraseIdx index }
      | _, _ => none

/-- No further step is possible: nothing queued, nothing executing, and nothing in the scheduled
registry that a running worker would ever move. -/
structure Quiescent (s : System) : Prop where
  queue : s.queue = []
  idle : ∀ pid worker, s.workers.lookup pid = some worker → worker.busy = none
  scheduled : s.scheduled = [] ∨
    ∀ pid worker, s.workers.lookup pid = some worker → worker.withScheduler = false

/-- A job between two attempts: it failed and has attempts left. -/
def Stranded (s : System) (key : JobId) : Prop :=
  ∃ job, s.jobs.lookup key = some job ∧ job.status = .failed ∧ job.attemptCount < job.maxAttempts

/-! ## What each event can do

One equation for each event: the states in which it can happen, and the state it leads to.  What the events
preserve is proved from these, with no further look at `step`. -/

variable {s s' : System} {pid : ℕ} {now : Instant} {outcome : HandlerOutcome} {index : ℕ}
  {key : JobId} {jobType : String} {payload : Json} {maxAttempts : ℕ}

theorem step_startWorker (h : s.step (.startWorker pid) = some s') :
    pid ∉ s.workers ∧ s' = s.setWorker pid mainWorker := by
  rw [step] at h
  split_ifs at h with hpid
  cases h
  exact ⟨hpid, rfl⟩

theorem step_enqueue (h : s.step (.enqueue key jobType payload maxAttempts) = some s') :
    key ∉ s.jobs ∧ 1 ≤ maxAttempts ∧ s' = { s with
      jobs := s.jobs.insert key (enqueuedJob jobType payload maxAttempts)
      queue := s.queue ++ [.ofRetry key (retryPolicy maxAttempts)] } := by
  rw [step] at h
  split_ifs at h with hkey
  cases h
  rw [not_or, not_lt] at hkey
  exact ⟨hkey.1, hkey.2, rfl⟩

theorem step_take (h : s.step (.take pid now) = some s') :
    ∃ withScheduler ticket queue, s.workers.lookup pid = some ⟨withScheduler, none⟩ ∧
      s.queue = ticket :: queue ∧
      ((s.jobs.lookup ticket.key = none ∧ s' = { s with queue }) ∨
        ∃ job, s.jobs.lookup ticket.key = some job ∧
          s' = { s with jobs := s.jobs.insert ticket.key (running now job), queue }.setWorker pid
            ⟨withScheduler, some (ticket, claim (running now job))⟩) := by
  rw [step] at h
  split at h
  · rename_i withScheduler ticket queue hworker hqueue
    refine ⟨withScheduler, ticket, queue, hworker, hqueue, ?_⟩
    rw [begin] at h
    cases hjob : s.jobs.lookup ticket.key with
    | none =>
        rw [hjob] at h
        cases h
        exact .inl ⟨rfl, rfl⟩
    | some job =>
        rw [hjob] at h
        cases h
        exact .inr ⟨job, rfl, rfl⟩
  · cases h

theorem step_finish (h : s.step (.finish pid now outcome) = some s') :
    ∃ withScheduler ticket held, s.workers.lookup pid = some ⟨withScheduler, some (ticket, held)⟩ ∧
      s' = (if (resolve held.jobType outcome).reraised
        then ({ s with jobs := (record now ticket.key held outcome s.jobs).2 }.setWorker pid
          ⟨withScheduler, none⟩).retry ticket
        else { s with jobs := (record now ticket.key held outcome s.jobs).2 }.setWorker pid
          ⟨withScheduler, none⟩) := by
  rw [step] at h
  split at h
  · rename_i withScheduler ticket held hworker
    refine ⟨withScheduler, ticket, held, hworker, ?_⟩
    have hraised : (record now ticket.key held outcome s.jobs).1.isSome
        = (resolve held.jobType outcome).reraised := isSome_record
    rw [← hraised]
    exact (Option.some.inj h).symm
  · cases h

theorem retry_jobs (ticket : Ticket) (s : System) : (s.retry ticket).jobs = s.jobs := by
  rw [retry]
  split
  · rfl
  · split_ifs <;> rfl

theorem step_promote (h : s.step (.promote pid index) = some s') :
    ∃ worker, s.workers.lookup pid = some worker ∧ worker.withScheduler = true := by
  rw [step] at h
  split at h
  · rename_i busy ticket hworker hticket
    exact ⟨_, hworker, rfl⟩
  · cases h

end System

end ReviewSignal
