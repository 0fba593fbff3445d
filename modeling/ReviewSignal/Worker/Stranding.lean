import ReviewSignal.Worker.System

/-!
# Jobs stranded between attempts

Every interval of the retry policy is positive, so an execution that raises with retries left goes
to the scheduled registry; and no worker `main` starts runs a scheduler, so nothing ever leaves it.
A job is therefore executed at most once, and a first attempt that raises an ordinary exception
leaves it `failed` with attempts left for good.

* `FirstAttempts` — the invariant: whatever is queued or executing is in its first attempt, the rows of
  both are there and say so, and no worker runs a scheduler.  Every event keeps it, from the empty system
  on, because the one thing that could break it is a job that comes back.
* `FirstAttempts.stranded_of_violation` — one execution that raises an ordinary exception with attempts
  left strands its job, and `FirstAttempts.stranded_step` — nothing touches the row of a stranded job again.
* **`no_job_stranded_iff`** — in a run that has come to its end the chain of `subsystems.md`, run, retry
  with backoff, dead letter, was completed for every job exactly when every execution of a job with more
  than one attempt returned or raised `PermanentJobError`.

The condition is on the steps of the run and not on its last state, and the two directions go different
ways.  If a step violates it, the job it strands is still there at the end; if none does, no row is ever
`failed`, and a state in which nothing can happen any more has no row that is `queued` or `running`.

`rate_limit_strands_job` is one rate limit in a job of three attempts.
-/

namespace ReviewSignal

open Runner ReviewSignal.System

/-- A worker is executing a ticket. -/
def Busy (s : System) (pid : ℕ) (ticket : Ticket) (held : Claim) : Prop :=
  ∃ withScheduler, s.workers.lookup pid = some ⟨withScheduler, some (ticket, held)⟩

/-- Every retry the ticket has left waits. -/
def Waits (ticket : Ticket) : Prop :=
  ∀ left, 0 < left → left ≤ ticket.retriesLeft → 0 < retryInterval ticket.retryIntervals left

/-- No running worker runs a scheduler. -/
def NoScheduler (s : System) : Prop :=
  ∀ pid worker, s.workers.lookup pid = some worker → worker.withScheduler = false

/-- The invariant: what is queued or executing is in its first attempt, and a row is `queued` or
`running` only while its job is in the queue or executing. -/
structure FirstAttempts (s : System) : Prop where
  queued : ∀ ticket ∈ s.queue, Waits ticket ∧ ∃ job, s.jobs.lookup ticket.key = some job ∧
    job.status = .queued ∧ job.attemptCount = 0
  nodup : (s.queue.map (·.key)).Nodup
  executing : ∀ pid ticket held, Busy s pid ticket held → Waits ticket ∧
    ∃ job, s.jobs.lookup ticket.key = some job ∧ job.status = .running ∧ claim job = held ∧
      held.attempt = 1
  alone : ∀ pid pid' ticket ticket' held held', Busy s pid ticket held →
    Busy s pid' ticket' held' → ticket.key = ticket'.key → pid = pid'
  noScheduler : NoScheduler s
  placed : ∀ key job, s.jobs.lookup key = some job → job.status = .queued →
    ∃ ticket ∈ s.queue, ticket.key = key
  held : ∀ key job, s.jobs.lookup key = some job → job.status = .running →
    ∃ pid ticket held, Busy s pid ticket held ∧ ticket.key = key

variable {s s' : System} {pid : ℕ} {ticket : Ticket} {held : Claim} {key : JobId}

theorem firstAttempts_empty : FirstAttempts .empty where
  queued ticket h := by cases h
  nodup := List.nodup_nil
  executing pid ticket held h := by
    obtain ⟨withScheduler, h⟩ := h
    cases h
  alone pid pid' ticket ticket' held held' h := by
    obtain ⟨withScheduler, h⟩ := h
    cases h
  noScheduler pid worker h := by cases h
  placed key job h := by cases h
  held key job h := by cases h

theorem waits_ofRetry (key : JobId) (maxAttempts : ℕ) :
    Waits (.ofRetry key (retryPolicy maxAttempts)) := by
  intro left hpos hle
  cases h : retryPolicy maxAttempts with
  | none =>
      rw [h] at hle
      have hzero : left ≤ 0 := hle
      omega
  | some retry =>
      rw [h] at hle
      exact retryInterval_pos h hpos hle

/-! ## Changing one worker

An event changes the process of one worker.  The invariant speaks of the busy ones, so these lemmas say who
is busy afterwards. -/

theorem setWorker_jobs (pid : ℕ) (worker : WorkerProcess) : (s.setWorker pid worker).jobs = s.jobs :=
  rfl

theorem lookup_setWorker (pid pid' : ℕ) (worker : WorkerProcess) :
    (s.setWorker pid worker).workers.lookup pid'
      = if pid' = pid then some worker else s.workers.lookup pid' := by
  split_ifs with h
  · subst h
    exact Finmap.lookup_insert _
  · exact Finmap.lookup_insert_of_ne _ h

theorem busy_setWorker_idle {withScheduler : Bool} {pid' : ℕ}
    (h : Busy (s.setWorker pid ⟨withScheduler, none⟩) pid' ticket held) :
    pid' ≠ pid ∧ Busy s pid' ticket held := by
  obtain ⟨b, h⟩ := h
  rw [lookup_setWorker] at h
  split_ifs at h with hpid
  · cases h
  · exact ⟨hpid, b, h⟩

theorem busy_setWorker_busy {withScheduler : Bool} {pid' : ℕ} {ticket' : Ticket} {held' : Claim}
    (h : Busy (s.setWorker pid ⟨withScheduler, some (ticket', held')⟩) pid' ticket held) :
    (pid' = pid ∧ ticket = ticket' ∧ held = held') ∨ (pid' ≠ pid ∧ Busy s pid' ticket held) := by
  obtain ⟨b, h⟩ := h
  rw [lookup_setWorker] at h
  split_ifs at h with hpid
  · cases h
    exact .inl ⟨hpid, rfl, rfl⟩
  · exact .inr ⟨hpid, b, h⟩

theorem busy_setWorker_of_ne {worker : WorkerProcess} {pid' : ℕ} (hne : pid' ≠ pid)
    (h : Busy s pid' ticket held) : Busy (s.setWorker pid worker) pid' ticket held := by
  obtain ⟨b, h⟩ := h
  refine ⟨b, ?_⟩
  rw [lookup_setWorker, if_neg hne, h]

theorem noScheduler_setWorker (h : NoScheduler s) {busy : Option (Ticket × Claim)} :
    NoScheduler (s.setWorker pid ⟨false, busy⟩) := by
  intro pid' worker hworker
  rw [lookup_setWorker] at hworker
  split_ifs at hworker with hpid
  · cases hworker
    rfl
  · exact h pid' worker hworker

/-- A raising execution whose retries all wait changes nothing but the scheduled registry. -/
theorem retry_of_waits (h : Waits ticket) (s : System) :
    (s.retry ticket).jobs = s.jobs ∧ (s.retry ticket).queue = s.queue ∧
      (s.retry ticket).workers = s.workers := by
  rw [System.retry]
  cases hleft : ticket.retriesLeft with
  | zero => exact ⟨rfl, rfl, rfl⟩
  | succ left =>
      have hpos := h (left + 1) (Nat.succ_pos left) (by omega)
      simp only [if_pos hpos]
      exact ⟨trivial, trivial, trivial⟩

/-- The invariant does not look at the scheduled registry. -/
theorem FirstAttempts.congr (h : FirstAttempts s) (hjobs : s'.jobs = s.jobs)
    (hqueue : s'.queue = s.queue) (hworkers : s'.workers = s.workers) : FirstAttempts s' := by
  obtain ⟨jobs, queue, scheduled, workers⟩ := s
  obtain ⟨jobs', queue', scheduled', workers'⟩ := s'
  cases hjobs
  cases hqueue
  cases hworkers
  exact ⟨h.queued, h.nodup, h.executing, h.alone, h.noScheduler, h.placed, h.held⟩

/-! ## One event

One lemma for each event that changes the queue or a worker; `promote` needs none, as it takes a scheduler. -/

theorem FirstAttempts.startWorker (h : FirstAttempts s) (hpid : pid ∉ s.workers) :
    FirstAttempts (s.setWorker pid mainWorker) where
  queued := h.queued
  nodup := h.nodup
  executing pid' ticket held hbusy := h.executing pid' ticket held (busy_setWorker_idle hbusy).2
  alone pid₁ pid₂ t₁ t₂ held₁ held₂ h₁ h₂ :=
    h.alone pid₁ pid₂ t₁ t₂ held₁ held₂ (busy_setWorker_idle h₁).2 (busy_setWorker_idle h₂).2
  noScheduler := noScheduler_setWorker h.noScheduler
  placed := h.placed
  held key job hjob hrunning := by
    obtain ⟨pid', ticket, held, hbusy, hkey⟩ := h.held key job hjob hrunning
    refine ⟨pid', ticket, held, busy_setWorker_of_ne ?_ hbusy, hkey⟩
    rintro rfl
    obtain ⟨b, hworker⟩ := hbusy
    exact hpid (Finmap.mem_of_lookup_eq_some hworker)

theorem FirstAttempts.enqueue (h : FirstAttempts s) (hkey : key ∉ s.jobs) (jobType : String)
    (payload : Json) (maxAttempts : ℕ) :
    FirstAttempts { s with
      jobs := s.jobs.insert key (enqueuedJob jobType payload maxAttempts)
      queue := s.queue ++ [.ofRetry key (retryPolicy maxAttempts)] } := by
  have hne : ∀ other job, s.jobs.lookup other = some job → other ≠ key := by
    intro other job hjob hother
    rw [← Finmap.lookup_eq_none] at hkey
    rw [hother, hkey] at hjob
    cases hjob
  refine ⟨?_, ?_, ?_, h.alone, h.noScheduler, ?_, ?_⟩
  · intro ticket hmem
    rcases List.mem_append.mp hmem with hold | hnew
    · obtain ⟨hwaits, job, hjob, hstatus, hcount⟩ := h.queued ticket hold
      refine ⟨hwaits, job, ?_, hstatus, hcount⟩
      rw [Finmap.lookup_insert_of_ne _ (hne _ _ hjob), hjob]
    · rw [List.mem_singleton.mp hnew]
      exact ⟨waits_ofRetry key maxAttempts, _, Finmap.lookup_insert _, rfl, rfl⟩
  · rw [List.map_append, List.nodup_append]
    refine ⟨h.nodup, List.nodup_singleton _, ?_⟩
    intro other hother key' hkey'
    obtain ⟨ticket, hmem, rfl⟩ := List.mem_map.mp hother
    obtain ⟨-, job, hjob, -⟩ := h.queued ticket hmem
    rw [List.mem_singleton.mp hkey']
    exact hne _ _ hjob
  · intro pid ticket held hbusy
    obtain ⟨hwaits, job, hjob, hrest⟩ := h.executing pid ticket held hbusy
    refine ⟨hwaits, job, ?_, hrest⟩
    rw [Finmap.lookup_insert_of_ne _ (hne _ _ hjob), hjob]
  · intro other job hjob hqueued
    by_cases hother : other = key
    · exact ⟨_, List.mem_append_right _ List.mem_cons_self, hother.symm⟩
    · rw [Finmap.lookup_insert_of_ne _ hother] at hjob
      obtain ⟨ticket, hmem, hticket⟩ := h.placed other job hjob hqueued
      exact ⟨ticket, List.mem_append_left _ hmem, hticket⟩
  · intro other job hjob hrunning
    by_cases hother : other = key
    · subst hother
      rw [Finmap.lookup_insert] at hjob
      cases hjob
      cases hrunning
    · rw [Finmap.lookup_insert_of_ne _ hother] at hjob
      exact h.held other job hjob hrunning

theorem FirstAttempts.take (h : FirstAttempts s) {queue : List Ticket} {now : Instant} {job : Job}
    (hidle : s.workers.lookup pid = some ⟨false, none⟩) (hqueue : s.queue = ticket :: queue)
    (hjob : s.jobs.lookup ticket.key = some job) :
    FirstAttempts ({ s with jobs := s.jobs.insert ticket.key (running now job), queue }.setWorker
      pid ⟨false, some (ticket, claim (running now job))⟩) := by
  obtain ⟨hwaits, job', hjob', hstatus, hcount⟩ :=
    h.queued ticket (hqueue ▸ List.mem_cons_self)
  obtain rfl : job' = job := Option.some.inj (hjob'.symm.trans hjob)
  have hnodup := h.nodup
  rw [hqueue, List.map_cons, List.nodup_cons] at hnodup
  -- no worker executes a queued job: its row would be running
  have hfree : ∀ pid' t held, Busy s pid' t held → t.key ≠ ticket.key := by
    intro pid' t held hbusy hsame
    obtain ⟨-, other, hother, hrunning, -⟩ := h.executing pid' t held hbusy
    rw [hsame, hjob] at hother
    cases hother
    rw [hstatus] at hrunning
    cases hrunning
  have hrunning : (s.jobs.insert ticket.key (running now job')).lookup ticket.key
      = some (running now job') := Finmap.lookup_insert _
  constructor
  · intro t hmem
    have hne : t.key ≠ ticket.key := fun hsame =>
      hnodup.1 (List.mem_map.mpr ⟨t, hmem, hsame⟩)
    obtain ⟨ht, other, hother, hrest⟩ := h.queued t (hqueue ▸ List.mem_cons_of_mem _ hmem)
    exact ⟨ht, other, (Finmap.lookup_insert_of_ne _ hne).trans hother, hrest⟩
  · exact hnodup.2
  · intro pid' t held hbusy
    rcases busy_setWorker_busy hbusy with ⟨rfl, rfl, rfl⟩ | ⟨-, hold⟩
    · refine ⟨hwaits, running now job', hrunning, rfl, rfl, ?_⟩
      show job'.attemptCount + 1 = 1
      omega
    · obtain ⟨ht, other, hother, hrest⟩ := h.executing pid' t held hold
      exact ⟨ht, other, (Finmap.lookup_insert_of_ne _ (hfree pid' t held hold)).trans hother, hrest⟩
  · intro pid₁ pid₂ t₁ t₂ held₁ held₂ h₁ h₂ hsame
    rcases busy_setWorker_busy h₁ with ⟨rfl, rfl, rfl⟩ | ⟨-, hold₁⟩
    · rcases busy_setWorker_busy h₂ with ⟨rfl, -, -⟩ | ⟨-, hold₂⟩
      · rfl
      · exact absurd hsame.symm (hfree pid₂ t₂ held₂ hold₂)
    · rcases busy_setWorker_busy h₂ with ⟨rfl, rfl, rfl⟩ | ⟨-, hold₂⟩
      · exact absurd hsame (hfree pid₁ t₁ held₁ hold₁)
      · exact h.alone pid₁ pid₂ t₁ t₂ held₁ held₂ hold₁ hold₂ hsame
  · exact noScheduler_setWorker h.noScheduler
  · intro other job hother hqueued
    by_cases hsame : other = ticket.key
    · subst hsame
      rw [setWorker_jobs, hrunning] at hother
      cases hother
      cases hqueued
    · obtain ⟨t, hmem, ht⟩ := h.placed other job
        ((Finmap.lookup_insert_of_ne _ hsame).symm.trans hother) hqueued
      rw [hqueue, List.mem_cons] at hmem
      rcases hmem with rfl | hmem
      · exact absurd ht.symm hsame
      · exact ⟨t, hmem, ht⟩
  · intro other job hother hstarted
    by_cases hsame : other = ticket.key
    · refine ⟨pid, ticket, claim (running now job'), ⟨false, ?_⟩, hsame.symm⟩
      rw [lookup_setWorker, if_pos rfl]
    · obtain ⟨pid', t, held, hbusy, ht⟩ := h.held other job
        ((Finmap.lookup_insert_of_ne _ hsame).symm.trans hother) hstarted
      refine ⟨pid', t, held, busy_setWorker_of_ne ?_ hbusy, ht⟩
      rintro rfl
      obtain ⟨b, hworker⟩ := hbusy
      rw [hidle] at hworker
      cases hworker

/-- Recording an outcome and freeing the worker. -/
theorem FirstAttempts.finish (h : FirstAttempts s) (hbusy : Busy s pid ticket held) (now : Instant)
    (outcome : HandlerOutcome) :
    FirstAttempts ({ s with jobs := (record now ticket.key held outcome s.jobs).2 }.setWorker pid
      ⟨false, none⟩) := by
  obtain ⟨-, job, hjob, hrunning, -⟩ := h.executing pid ticket held hbusy
  -- an outcome takes the row out of `queued` and `running`
  have recorded : ∀ other row, (record now ticket.key held outcome s.jobs).2.lookup other = some row →
      other = ticket.key → row.status ≠ .queued ∧ row.status ≠ .running := by
    rintro other row hother rfl
    rw [lookup_record_self, hjob] at hother
    cases hother
    exact status_outcomeRow
  constructor
  · intro t hmem
    obtain ⟨ht, other, hother, hqueued, hcount⟩ := h.queued t hmem
    have hne : t.key ≠ ticket.key := by
      intro hsame
      rw [hsame, hjob] at hother
      cases hother
      rw [hqueued] at hrunning
      cases hrunning
    exact ⟨ht, other, (lookup_record_of_ne hne).trans hother, hqueued, hcount⟩
  · exact h.nodup
  · intro pid' t held' hafter
    obtain ⟨hne, hold⟩ := busy_setWorker_idle hafter
    obtain ⟨ht, other, hother, hrest⟩ := h.executing pid' t held' hold
    have hkey : t.key ≠ ticket.key := fun hsame =>
      hne (h.alone pid' pid t ticket held' held hold hbusy hsame)
    exact ⟨ht, other, (lookup_record_of_ne hkey).trans hother, hrest⟩
  · intro pid₁ pid₂ t₁ t₂ held₁ held₂ h₁ h₂
    exact h.alone pid₁ pid₂ t₁ t₂ held₁ held₂ (busy_setWorker_idle h₁).2 (busy_setWorker_idle h₂).2
  · exact noScheduler_setWorker h.noScheduler
  · intro other row hother hqueued
    by_cases hsame : other = ticket.key
    · obtain ⟨hne, -⟩ := recorded other row hother hsame
      exact absurd hqueued hne
    · exact h.placed other row ((lookup_record_of_ne hsame).symm.trans hother) hqueued
  · intro other row hother hstarted
    by_cases hsame : other = ticket.key
    · obtain ⟨-, hne⟩ := recorded other row hother hsame
      exact absurd hstarted hne
    · obtain ⟨pid', t, held', hbusy', ht⟩ :=
        h.held other row ((lookup_record_of_ne hsame).symm.trans hother) hstarted
      refine ⟨pid', t, held', busy_setWorker_of_ne ?_ hbusy', ht⟩
      rintro rfl
      obtain ⟨b, hworker⟩ := hbusy
      obtain ⟨b', hworker'⟩ := hbusy'
      rw [hworker] at hworker'
      cases hworker'
      exact hsame ht.symm

/-- **Every event keeps the invariant.** -/
theorem FirstAttempts.step (h : FirstAttempts s) {event : QueueEvent}
    (hstep : s.step event = some s') : FirstAttempts s' := by
  cases event with
  | startWorker pid =>
      obtain ⟨hpid, rfl⟩ := step_startWorker hstep
      exact h.startWorker hpid
  | enqueue key jobType payload maxAttempts =>
      obtain ⟨hkey, -, rfl⟩ := step_enqueue hstep
      exact h.enqueue hkey jobType payload maxAttempts
  | take pid now =>
      obtain ⟨withScheduler, ticket, queue, hworker, hqueue, hcase⟩ := step_take hstep
      obtain rfl : withScheduler = false := h.noScheduler pid _ hworker
      rcases hcase with ⟨hmissing, -⟩ | ⟨job, hjob, rfl⟩
      · obtain ⟨-, job, hjob, -⟩ := h.queued ticket (hqueue ▸ List.mem_cons_self)
        rw [hmissing] at hjob
        cases hjob
      · exact h.take hworker hqueue hjob
  | finish pid now outcome =>
      obtain ⟨withScheduler, ticket, held, hworker, rfl⟩ := step_finish hstep
      obtain rfl : withScheduler = false := h.noScheduler pid _ hworker
      have hfinish := h.finish ⟨false, hworker⟩ now outcome
      split_ifs with hraised
      · obtain ⟨hwaits, -⟩ := h.executing pid ticket held ⟨false, hworker⟩
        obtain ⟨hjobs, hqueue, hworkers⟩ := retry_of_waits hwaits _
        exact hfinish.congr hjobs hqueue hworkers
      · exact hfinish
  | promote pid index =>
      obtain ⟨worker, hworker, hscheduler⟩ := step_promote hstep
      rw [h.noScheduler pid worker hworker] at hscheduler
      cases hscheduler

/-! ## What strands a job

The condition on a step, and the two ways a run goes from there. -/

/-- The first execution of a job that allows a second one is also its last: its type is registered,
and its handler returns or raises `PermanentJobError`. -/
def FirstRunSettles (s : System) : QueueEvent → Prop
  | .finish pid _ outcome => ∀ ticket held, Busy s pid ticket held → 2 ≤ held.maxAttempts →
      held.jobType ∈ handlers ∧ outcome.reraised = false
  | _ => True

/-- The row a finished execution leaves. -/
theorem FirstAttempts.row_finish (h : FirstAttempts s) {now : Instant} {outcome : HandlerOutcome}
    (hstep : s.step (.finish pid now outcome) = some s') (hbusy : Busy s pid ticket held) :
    (∀ other ≠ ticket.key, s'.jobs.lookup other = s.jobs.lookup other) ∧
    ∃ job, s'.jobs.lookup ticket.key = some job ∧ job.attemptCount = 1 ∧
      job.maxAttempts = held.maxAttempts ∧
      (job.status = .failed ↔
        2 ≤ held.maxAttempts ∧ ¬ (held.jobType ∈ handlers ∧ outcome.reraised = false)) := by
  obtain ⟨withScheduler, ticket', held', hworker, hs'⟩ := step_finish hstep
  obtain ⟨b, hb⟩ := hbusy
  obtain ⟨rfl, rfl⟩ : ticket' = ticket ∧ held' = held := by
    rw [hworker] at hb
    cases hb
    exact ⟨rfl, rfl⟩
  have hjobs : s'.jobs = (record now ticket'.key held' outcome s.jobs).2 := by
    rw [hs']
    split_ifs
    · rw [retry_jobs, setWorker_jobs]
    · rfl
  obtain ⟨-, job, hjob, -, rfl, hfirst⟩ := h.executing pid ticket' held' ⟨b, hb⟩
  obtain ⟨hcount, hmax⟩ :=
    attempts_outcomeRow now (claim job) (resolve (claim job).jobType outcome) job
  refine ⟨fun other hne => by rw [hjobs, lookup_record_of_ne hne], _,
    by rw [hjobs, lookup_record_self, hjob]; rfl, hcount.trans hfirst, hmax, ?_⟩
  rw [status_outcomeRow_eq_failed, hfirst, ← reraised_resolve, Bool.not_eq_false, and_comm]
  rfl

/-- **Which rows a step changes**: one that was not there or `queued`, which is not `failed` then, or
the row of the execution that finishes. -/
theorem FirstAttempts.lookup_step (h : FirstAttempts s) {event : QueueEvent}
    (hstep : s.step event = some s') (key : JobId) :
    s'.jobs.lookup key = s.jobs.lookup key ∨
    ((∀ job, s.jobs.lookup key = some job → job.status = .queued) ∧
      ∃ job, s'.jobs.lookup key = some job ∧ job.status ≠ .failed) ∨
    ∃ pid now outcome ticket held, event = .finish pid now outcome ∧ Busy s pid ticket held ∧
      ticket.key = key := by
  cases event with
  | startWorker pid =>
      obtain ⟨-, rfl⟩ := step_startWorker hstep
      exact .inl rfl
  | enqueue newKey jobType payload maxAttempts =>
      obtain ⟨hfresh, -, rfl⟩ := step_enqueue hstep
      by_cases hkey : key = newKey
      · subst hkey
        refine .inr (.inl ⟨fun job hjob => ?_, _, Finmap.lookup_insert _, nofun⟩)
        exact absurd (Finmap.mem_of_lookup_eq_some hjob) hfresh
      · exact .inl (Finmap.lookup_insert_of_ne _ hkey)
  | take pid now =>
      obtain ⟨withScheduler, ticket, queue, -, hqueue, hcase⟩ := step_take hstep
      rcases hcase with ⟨-, rfl⟩ | ⟨taken, -, rfl⟩
      · exact .inl rfl
      · by_cases hkey : key = ticket.key
        · subst hkey
          obtain ⟨-, job, hjob, hqueued, -⟩ := h.queued ticket (hqueue ▸ List.mem_cons_self)
          refine .inr (.inl ⟨fun other hother => ?_, _, Finmap.lookup_insert _, nofun⟩)
          rw [hjob] at hother
          cases hother
          exact hqueued
        · exact .inl (Finmap.lookup_insert_of_ne _ hkey)
  | finish pid now outcome =>
      obtain ⟨withScheduler, ticket, held, hworker, -⟩ := step_finish hstep
      obtain ⟨hframe, -⟩ := h.row_finish hstep ⟨withScheduler, hworker⟩
      by_cases hkey : key = ticket.key
      · exact .inr (.inr ⟨pid, now, outcome, ticket, held, rfl, ⟨withScheduler, hworker⟩, hkey.symm⟩)
      · exact .inl (hframe key hkey)
  | promote pid index =>
      obtain ⟨worker, hworker, hscheduler⟩ := step_promote hstep
      rw [h.noScheduler pid worker hworker] at hscheduler
      cases hscheduler

/-- No row is `failed`. -/
def NoneFailed (s : System) : Prop :=
  ∀ key job, s.jobs.lookup key = some job → job.status ≠ .failed

theorem noneFailed_empty : NoneFailed .empty := by
  intro key job h
  cases h

/-- A step that meets the condition fails no job. -/
theorem FirstAttempts.noneFailed_step (h : FirstAttempts s) {event : QueueEvent}
    (hstep : s.step event = some s') (hsettles : FirstRunSettles s event) (hnone : NoneFailed s) :
    NoneFailed s' := by
  intro key row hrow hfailed
  rcases h.lookup_step hstep key with hsame | ⟨-, job, hjob, hnot⟩ |
    ⟨pid, now, outcome, ticket, held, rfl, hbusy, rfl⟩
  · exact hnone key row (hsame.symm.trans hrow) hfailed
  · rw [hjob] at hrow
    cases hrow
    exact hnot hfailed
  · obtain ⟨-, job, hjob, -, -, hiff⟩ := h.row_finish hstep hbusy
    rw [hjob] at hrow
    cases hrow
    obtain ⟨htwo, hraised⟩ := hiff.mp hfailed
    exact hraised (hsettles ticket held hbusy htwo)

/-- A step that violates the condition strands the job it executed. -/
theorem FirstAttempts.stranded_of_violation (h : FirstAttempts s) {event : QueueEvent}
    (hstep : s.step event = some s') (hviolated : ¬ FirstRunSettles s event) :
    ∃ key, s'.Stranded key := by
  cases event with
  | finish pid now outcome =>
      rw [FirstRunSettles] at hviolated
      push Not at hviolated
      obtain ⟨ticket, held, hbusy, htwo, hraised⟩ := hviolated
      obtain ⟨-, job, hjob, hcount, hmax, hiff⟩ := h.row_finish hstep hbusy
      refine ⟨ticket.key, job, hjob, hiff.mpr ⟨htwo, ?_⟩, by omega⟩
      rintro ⟨hregistered, hsettled⟩
      exact hraised hregistered hsettled
  | _ => exact absurd trivial hviolated

/-- **A stranded job stays stranded**: no step of any worker touches its row again. -/
theorem FirstAttempts.stranded_step (h : FirstAttempts s) {event : QueueEvent}
    (hstep : s.step event = some s') (hstranded : s.Stranded key) : s'.Stranded key := by
  obtain ⟨job, hjob, hfailed, hleft⟩ := hstranded
  rcases h.lookup_step hstep key with hsame | ⟨hqueued, -⟩ |
    ⟨pid, now, outcome, ticket, held, -, hbusy, rfl⟩
  · exact ⟨job, hsame.trans hjob, hfailed, hleft⟩
  · rw [hqueued job hjob] at hfailed
    cases hfailed
  · -- an executing row is `running`
    obtain ⟨-, other, hother, hrunning, -⟩ := h.executing pid ticket held hbusy
    rw [hjob] at hother
    cases hother
    rw [hfailed] at hrunning
    cases hrunning

/-! ## Runs

The step lemmas over a whole run: one direction carries the stranded job to its end, the other one the
absence of `failed` rows. -/

/-- The chain run, retry with backoff, dead letter is completed for every job. -/
def ChainsCompleted (s : System) : Prop :=
  (∀ key, ¬ s.Stranded key) ∧
    ∀ key job, s.jobs.lookup key = some job → job.status = .succeeded ∨ job.status = .deadLetter

/-- In a state where nothing can happen any more, a job that has not failed has ended. -/
theorem FirstAttempts.ended (h : FirstAttempts s) (hq : s.Quiescent) {job : Job}
    (hjob : s.jobs.lookup key = some job) (hfailed : job.status ≠ .failed) :
    job.status = .succeeded ∨ job.status = .deadLetter := by
  cases hstatus : job.status with
  | queued =>
      obtain ⟨ticket, hmem, -⟩ := h.placed key job hjob hstatus
      rw [hq.queue] at hmem
      cases hmem
  | running =>
      obtain ⟨pid, ticket, held, ⟨b, hworker⟩, -⟩ := h.held key job hjob hstatus
      cases hq.idle pid _ hworker
  | succeeded => exact .inl rfl
  | failed => exact absurd hstatus hfailed
  | deadLetter => exact .inr rfl

/-- **No job is stranded**, in a run that has come to its end, exactly when every execution of a job
with more than one attempt returns or raises `PermanentJobError`. -/
theorem no_job_stranded_iff {events : List QueueEvent} (h : exec step .empty events = some s)
    (hq : s.Quiescent) : ChainsCompleted s ↔ Along step FirstRunSettles .empty events := by
  constructor
  · rintro ⟨hnone, -⟩
    by_contra hviolated
    obtain ⟨before, event, after, s₁, s₂, -, hbefore, hevent, hstep, hafter⟩ :=
      exists_violation hviolated h
    have h₁ : FirstAttempts s₁ :=
      exec_invariant (fun _ _ _ hs he => hs.step he) firstAttempts_empty hbefore
    obtain ⟨key, hstranded⟩ := h₁.stranded_of_violation hstep hevent
    have hkept : FirstAttempts s ∧ s.Stranded key :=
      exec_invariant (p := fun t => FirstAttempts t ∧ t.Stranded key)
        (fun _ _ _ hs he => ⟨hs.1.step he, hs.1.stranded_step he hs.2⟩)
        ⟨h₁.step hstep, hstranded⟩ hafter
    exact hnone key hkept.2
  · intro halong
    obtain ⟨hfirst, hnone⟩ : FirstAttempts s ∧ NoneFailed s :=
      exec_invariant_along (p := fun t => FirstAttempts t ∧ NoneFailed t)
        (fun _ _ _ hs hsettles he => ⟨hs.1.step he, hs.1.noneFailed_step he hsettles hs.2⟩)
        ⟨firstAttempts_empty, noneFailed_empty⟩ halong h
    refine ⟨?_, fun key job hjob => hfirst.ended hq hjob (hnone key job hjob)⟩
    rintro key ⟨job, hjob, hfailed, -⟩
    exact hnone key job hjob hfailed

/-! ## One execution

The shortest run that strands a job, and the same run with a handler that returns. -/

/-- A worker is started, a `google_sync` with three attempts is enqueued and executed once. -/
def oneExecution (outcome : HandlerOutcome) : List QueueEvent :=
  [.startWorker 0, .enqueue 7 "google_sync" (.obj []) 3, .take 0 0, .finish 0 1 outcome]

/-- The only worker of the run is idle at its end. -/
theorem idle_oneExecution {first second worker : WorkerProcess}
    (h : (((∅ : Finmap fun _ : ℕ => WorkerProcess).insert 0 first).insert 0 second
      |>.insert 0 mainWorker).lookup pid = some worker) : worker = mainWorker := by
  by_cases hpid : pid = 0
  · subst hpid
    rw [Finmap.lookup_insert] at h
    exact (Option.some.inj h).symm
  · rw [Finmap.lookup_insert_of_ne _ hpid, Finmap.lookup_insert_of_ne _ hpid,
      Finmap.lookup_insert_of_ne _ hpid] at h
    cases h

/-- The backoff keeps the job in the scheduled registry, which no worker looks at. -/
theorem rate_limit_strands_job : ∃ s,
    exec step .empty (oneExecution (.raises ⟨"SourceFetchError", "429"⟩)) = some s ∧
      s.Quiescent ∧ s.Stranded 7 := by
  refine ⟨_, rfl, ⟨rfl, ?_, .inr ?_⟩, _, rfl, rfl, by decide⟩
  · intro pid worker h
    rw [idle_oneExecution h]
    rfl
  · intro pid worker h
    rw [idle_oneExecution h]
    rfl

theorem no_job_stranded_iff_success : ∃ s,
    exec step .empty (oneExecution .returns) = some s ∧ s.Quiescent ∧
      (ChainsCompleted s ↔ Along step FirstRunSettles .empty (oneExecution .returns)) := by
  refine ⟨_, rfl, ?_, no_job_stranded_iff rfl ?_⟩
  all_goals
    refine ⟨rfl, ?_, .inl rfl⟩
    intro pid worker h
    rw [idle_oneExecution h]
    rfl

end ReviewSignal
