import ReviewSignal.Worker.Stranding
import Mathlib.Data.Set.Function

/-!
# The jobs in the system status

What `SystemService.status` reports of the jobs: the length of RQ's queue, and the rows of `jobs` that are
`failed` or `dead_letter`.  One is transport and the other is the record, and nothing compares them.

`status_accounts`: while no process dies they agree, one by one and not only in number.

* The tickets of the queue are those of the `queued` rows, one each (`OneEach`);
* the tickets of the scheduled registry are those of the `failed` rows, and no worker takes them from there;
* the busy workers execute the `running` rows, one each (`Set.BijOn`);
* so that the figures of the report and the succeeded jobs make up the table, and the failed jobs only grow.

**Between events.**  `System.step` does in one event what the code does in two: `enqueue` commits the row
before it pushes the ticket, and a worker takes a ticket before it commits that the row is running.  In
between a row has no ticket, and it stays so where the second half fails (`failed_push_leaves_row`); nor is a
depth of 0 that of the queue when `LLEN` raises.  So the agreement is about the states between events, where
every command of Redis and the database is answered.
-/

namespace ReviewSignal

namespace SystemRepository

/-- The rows with one of the statuses. -/
def withStatus (statuses : List JobStatus) (jobs : JobTable) : Finset JobId :=
  jobs.keys.filter fun key => (jobs.lookup key).any fun job => job.status ∈ statuses

/-- `failed_job_count` -/
def failedJobCount (jobs : JobTable) : ℕ := (withStatus [.failed, .deadLetter] jobs).card

end SystemRepository

/-- `SystemService._queue_depth`, of what `LLEN` answers. -/
def SystemService.queueDepth : Except Exn ℕ → ℕ
  | .ok depth => depth
  | .error _ => 0

/-- The workers that are executing a job. -/
def System.busyWorkers (s : System) : Finset ℕ :=
  s.workers.keys.filter fun pid => (s.workers.lookup pid).any (·.busy.isSome)

/-- The job a worker is executing, if it is. -/
def System.executing (s : System) (pid : ℕ) : JobId :=
  ((s.workers.lookup pid).bind (·.busy)).elim 0 (·.1.key)

/-- The tickets are those of these rows, one each. -/
def OneEach (tickets : List Ticket) (rows : Finset JobId) : Prop :=
  (tickets.map (·.key)).Nodup ∧ ∀ key, key ∈ rows ↔ ∃ ticket ∈ tickets, ticket.key = key

open Runner ReviewSignal.System SystemRepository

/-- Beside the queue and the workers: a job in its first attempt has all its retries, and the `failed` rows
are in the scheduled registry, each of them once. -/
structure JobsAccounted (s : System) : Prop extends FirstAttempts s where
  queuedRetries : ∀ ticket ∈ s.queue, ∀ job, s.jobs.lookup ticket.key = some job →
    ticket.retriesLeft + 1 = job.maxAttempts
  busyRetries : ∀ pid ticket held, Busy s pid ticket held → ticket.retriesLeft + 1 = held.maxAttempts
  scheduledNodup : (s.scheduled.map (·.key)).Nodup
  scheduledFailed : ∀ ticket ∈ s.scheduled, ∃ job, s.jobs.lookup ticket.key = some job ∧
    job.status = .failed
  failedScheduled : ∀ key job, s.jobs.lookup key = some job → job.status = .failed →
    ∃ ticket ∈ s.scheduled, ticket.key = key

variable {s s' t : System} {pid : ℕ} {ticket : Ticket} {held : Claim} {key : JobId}

theorem accounted_empty : JobsAccounted .empty where
  toFirstAttempts := firstAttempts_empty
  queuedRetries ticket h := by cases h
  busyRetries pid ticket held h := by
    obtain ⟨withScheduler, h⟩ := h
    cases h
  scheduledNodup := List.nodup_nil
  scheduledFailed ticket h := by cases h
  failedScheduled key job h := by cases h

/-! ## One event

The account is an invariant besides that of the queue. -/

theorem JobsAccounted.startWorker (h : JobsAccounted s) (hpid : pid ∉ s.workers) :
    JobsAccounted (s.setWorker pid mainWorker) where
  toFirstAttempts := h.toFirstAttempts.startWorker hpid
  queuedRetries := h.queuedRetries
  busyRetries pid' ticket held hbusy := h.busyRetries pid' ticket held (busy_setWorker_idle hbusy).2
  scheduledNodup := h.scheduledNodup
  scheduledFailed := h.scheduledFailed
  failedScheduled := h.failedScheduled

theorem JobsAccounted.enqueue (h : JobsAccounted s) (hkey : key ∉ s.jobs) (jobType : String) (payload : Json)
    {maxAttempts : ℕ} (hmax : 1 ≤ maxAttempts) :
    JobsAccounted { s with
      jobs := s.jobs.insert key (enqueuedJob jobType payload maxAttempts)
      queue := s.queue ++ [.ofRetry key (retryPolicy maxAttempts)] } := by
  have hne : ∀ other job, s.jobs.lookup other = some job → other ≠ key := by
    rintro other job hjob rfl
    exact hkey (Finmap.mem_of_lookup_eq_some hjob)
  refine ⟨h.toFirstAttempts.enqueue hkey jobType payload maxAttempts, ?_, h.busyRetries, h.scheduledNodup,
    ?_, ?_⟩
  · intro ticket hmem job hjob
    rcases List.mem_append.mp hmem with hold | hnew
    · obtain ⟨-, other, hother, -⟩ := h.queued ticket hold
      rw [Finmap.lookup_insert_of_ne _ (hne _ _ hother)] at hjob
      exact h.queuedRetries ticket hold job hjob
    · rw [List.mem_singleton.mp hnew] at hjob ⊢
      have hrow : job = enqueuedJob jobType payload maxAttempts :=
        (Option.some.inj ((Finmap.lookup_insert _).symm.trans hjob)).symm
      rw [hrow]
      exact max_retryPolicy hmax
  · intro ticket hmem
    obtain ⟨job, hjob, hfailed⟩ := h.scheduledFailed ticket hmem
    exact ⟨job, (Finmap.lookup_insert_of_ne _ (hne _ _ hjob)).trans hjob, hfailed⟩
  · intro other job hjob hfailed
    by_cases hother : other = key
    · subst hother
      rw [Finmap.lookup_insert] at hjob
      cases hjob
      cases hfailed
    · exact h.failedScheduled other job ((Finmap.lookup_insert_of_ne _ hother).symm.trans hjob) hfailed

theorem JobsAccounted.take (h : JobsAccounted s) {queue : List Ticket} {now : Instant} {job : Job}
    (hidle : s.workers.lookup pid = some ⟨false, none⟩) (hqueue : s.queue = ticket :: queue)
    (hjob : s.jobs.lookup ticket.key = some job) :
    JobsAccounted ({ s with jobs := s.jobs.insert ticket.key (running now job), queue }.setWorker
      pid ⟨false, some (ticket, claim (running now job))⟩) := by
  have hhead : ticket ∈ s.queue := by simp [hqueue]
  have hstatus : job.status = .queued := by
    obtain ⟨-, other, hother, hqueued, -⟩ := h.queued ticket hhead
    rw [hjob] at hother
    cases hother
    exact hqueued
  refine ⟨h.toFirstAttempts.take hidle hqueue hjob, ?_, ?_, h.scheduledNodup, ?_, ?_⟩
  · intro later hmem other hother
    have hkeys := h.nodup
    rw [hqueue, List.map_cons, List.nodup_cons] at hkeys
    have hne : later.key ≠ ticket.key := fun hsame => hkeys.1 (hsame ▸ List.mem_map_of_mem hmem)
    refine h.queuedRetries later (hqueue ▸ List.mem_cons_of_mem _ hmem) other ?_
    exact (Finmap.lookup_insert_of_ne _ hne).symm.trans hother
  · intro pid' ticket' held hbusy
    rcases busy_setWorker_busy hbusy with ⟨-, rfl, rfl⟩ | ⟨-, hold⟩
    · exact h.queuedRetries _ hhead job hjob
    · exact h.busyRetries pid' ticket' held hold
  · intro other hmem
    obtain ⟨row, hrow, hfailed⟩ := h.scheduledFailed other hmem
    have hne : other.key ≠ ticket.key := by
      intro hsame
      rw [hsame, hjob] at hrow
      cases hrow
      rw [hstatus] at hfailed
      cases hfailed
    exact ⟨row, (Finmap.lookup_insert_of_ne _ hne).trans hrow, hfailed⟩
  · intro other row hrow hfailed
    by_cases hsame : other = ticket.key
    · subst hsame
      rw [setWorker_jobs, Finmap.lookup_insert] at hrow
      cases hrow
      cases hfailed
    · exact h.failedScheduled other row ((Finmap.lookup_insert_of_ne _ hsame).symm.trans hrow) hfailed

/-- What an execution does with its ticket when it ends: it is scheduled if the row is `failed`. -/
theorem JobsAccounted.retry_scheduled (h : JobsAccounted s) (hbusy : Busy s pid ticket held) (u : System) :
    (u.retry ticket).scheduled
      = u.scheduled ++ if 2 ≤ held.maxAttempts then [{ ticket with retriesLeft := held.maxAttempts - 2 }]
        else [] := by
  have hleft := h.busyRetries pid ticket held hbusy
  obtain ⟨hwaits, -⟩ := h.executing pid ticket held hbusy
  rw [System.retry]
  cases hretries : ticket.retriesLeft with
  | zero =>
      have hone : ¬ 2 ≤ held.maxAttempts := by omega
      simp [hone]
  | succ left =>
      have hpositive : 0 < retryInterval ticket.retryIntervals (left + 1) :=
        hwaits (left + 1) (Nat.succ_pos left) hretries.ge
      have htwo : 2 ≤ held.maxAttempts := by omega
      have hsame : held.maxAttempts - 2 = left := by omega
      simp [hpositive, htwo, hsame]

/-- What the end of an execution leaves in Redis and of the workers. -/
theorem JobsAccounted.finish_rq (h : JobsAccounted s) {now : Instant} {outcome : HandlerOutcome}
    (hstep : s.step (.finish pid now outcome) = some s') (hbusy : Busy s pid ticket held) {row : Job}
    (hrow : s'.jobs.lookup ticket.key = some row) :
    s'.queue = s.queue ∧ (∀ pid' ticket' held', Busy s' pid' ticket' held' → Busy s pid' ticket' held') ∧
    ∃ later : Ticket, later.key = ticket.key ∧
      s'.scheduled = s.scheduled ++ if row.status = .failed then [later] else [] := by
  obtain ⟨-, job, hjob, -, -, hfailed⟩ := h.row_finish hstep hbusy
  obtain rfl : job = row := Option.some.inj (hjob.symm.trans hrow)
  obtain ⟨withScheduler, ticket', held', hworker, hs'⟩ := step_finish hstep
  obtain ⟨b, hb⟩ := hbusy
  obtain ⟨rfl, rfl⟩ : ticket' = ticket ∧ held' = held := by
    rw [hworker] at hb
    cases hb
    exact ⟨rfl, rfl⟩
  have hbusy : Busy s pid ticket' held' := ⟨b, hb⟩
  have hraised : (resolve held'.jobType outcome).reraised = true
      ↔ ¬ (held'.jobType ∈ handlers ∧ outcome.reraised = false) := by
    rw [← reraised_resolve, Bool.not_eq_false]
  rw [← hraised] at hfailed
  set u := { s with jobs := (record now ticket'.key held' outcome s.jobs).2 }.setWorker pid
    ⟨withScheduler, none⟩
  have hidle : ∀ pid' ticket held, Busy u pid' ticket held → Busy s pid' ticket held :=
    fun pid' ticket held hafter => (busy_setWorker_idle hafter).2
  by_cases hagain : (resolve held'.jobType outcome).reraised = true
  · rw [if_pos hagain] at hs'
    rw [hs']
    obtain ⟨hwaits, -⟩ := h.executing pid ticket' held' hbusy
    obtain ⟨-, hqueue, hworkers⟩ := retry_of_waits hwaits u
    refine ⟨hqueue, fun pid' ticket held hafter => ?_,
      { ticket' with retriesLeft := held'.maxAttempts - 2 }, rfl, ?_⟩
    · rw [Busy, hworkers] at hafter
      exact hidle pid' ticket held hafter
    · simp only [h.retry_scheduled hbusy u, hfailed, hagain, and_true]
      rfl
  · rw [if_neg hagain] at hs'
    rw [hs']
    have hnot : job.status ≠ .failed := fun hstatus => hagain (hfailed.mp hstatus).2
    refine ⟨rfl, hidle, ticket', rfl, ?_⟩
    rw [if_neg hnot, List.append_nil]
    rfl

theorem JobsAccounted.finish (h : JobsAccounted s) {now : Instant} {outcome : HandlerOutcome}
    (hstep : s.step (.finish pid now outcome) = some s') : JobsAccounted s' := by
  have hfirst : FirstAttempts s' := h.toFirstAttempts.step hstep
  obtain ⟨withScheduler, ticket, held, hworker, -⟩ := step_finish hstep
  have hbusy : Busy s pid ticket held := ⟨withScheduler, hworker⟩
  obtain ⟨hframe, row, hrow, -⟩ := h.row_finish hstep hbusy
  obtain ⟨hqueue, hworkers, later, hlater, hscheduled⟩ := h.finish_rq hstep hbusy hrow
  -- the row was `running`, so that it is neither in the queue nor scheduled
  obtain ⟨-, job, hjob, hrunning, -⟩ := h.executing pid ticket held hbusy
  have hother : ∀ (other : JobId) (before : Job), s.jobs.lookup other = some before →
      before.status ≠ .running → other ≠ ticket.key := by
    rintro other before hbefore hnot rfl
    rw [hjob] at hbefore
    cases hbefore
    exact hnot hrunning
  refine ⟨hfirst, ?_, ?_, ?_, ?_, ?_⟩
  · intro queued hmem after hafter
    rw [hqueue] at hmem
    obtain ⟨-, before, hbefore, hstatus, -⟩ := h.queued queued hmem
    rw [hframe _ (hother _ _ hbefore (by simp [hstatus]))] at hafter
    exact h.queuedRetries queued hmem after hafter
  · exact fun pid' ticket' held' hafter => h.busyRetries pid' ticket' held' (hworkers _ _ _ hafter)
  · rw [hscheduled, List.map_append, List.nodup_append]
    refine ⟨h.scheduledNodup, by split_ifs <;> simp, ?_⟩
    intro key hkey key' hkey'
    obtain ⟨earlier, hmem, rfl⟩ := List.mem_map.mp hkey
    obtain ⟨before, hbefore, hstatus⟩ := h.scheduledFailed earlier hmem
    have hsame : key' = ticket.key := by
      split_ifs at hkey'
      · simpa [hlater] using hkey'
      · cases hkey'
    rw [hsame]
    exact hother _ _ hbefore (by simp [hstatus])
  · intro scheduled hmem
    rw [hscheduled] at hmem
    rcases List.mem_append.mp hmem with hold | hnew
    · obtain ⟨before, hbefore, hstatus⟩ := h.scheduledFailed scheduled hold
      exact ⟨before, (hframe _ (hother _ _ hbefore (by simp [hstatus]))).trans hbefore, hstatus⟩
    · split_ifs at hnew with hfailed
      · rw [List.mem_singleton.mp hnew, hlater]
        exact ⟨row, hrow, hfailed⟩
      · cases hnew
  · intro key after hafter hfailed
    rw [hscheduled]
    by_cases hkey : key = ticket.key
    · subst hkey
      rw [hrow] at hafter
      cases hafter
      exact ⟨later, by simp [hfailed], hlater⟩
    · rw [hframe key hkey] at hafter
      obtain ⟨scheduled, hmem, hsame⟩ := h.failedScheduled key after hafter hfailed
      exact ⟨scheduled, List.mem_append_left _ hmem, hsame⟩

/-- **Every event keeps the account.** -/
theorem JobsAccounted.step (h : JobsAccounted s) {event : QueueEvent} (hstep : s.step event = some s') :
    JobsAccounted s' := by
  cases event with
  | startWorker pid =>
      obtain ⟨hpid, rfl⟩ := step_startWorker hstep
      exact h.startWorker hpid
  | enqueue key jobType payload maxAttempts =>
      obtain ⟨hkey, hmax, rfl⟩ := step_enqueue hstep
      exact h.enqueue hkey jobType payload hmax
  | take pid now =>
      obtain ⟨withScheduler, ticket, queue, hworker, hqueue, hcase⟩ := step_take hstep
      obtain rfl : withScheduler = false := h.noScheduler pid _ hworker
      rcases hcase with ⟨hmissing, -⟩ | ⟨job, hjob, rfl⟩
      · obtain ⟨-, job, hjob, -⟩ := h.queued ticket (hqueue ▸ List.mem_cons_self)
        rw [hmissing] at hjob
        cases hjob
      · exact h.take hworker hqueue hjob
  | finish pid now outcome => exact h.finish hstep
  | promote pid index =>
      obtain ⟨worker, hworker, hscheduler⟩ := step_promote hstep
      rw [h.noScheduler pid worker hworker] at hscheduler
      cases hscheduler

/-! ## Counting

From one ticket for each row to numbers that are the same. -/

namespace SystemRepository

variable {statuses : List JobStatus} {status second : JobStatus} {jobs : JobTable}

@[simp] theorem mem_withStatus :
    key ∈ withStatus statuses jobs ↔ ∃ job, jobs.lookup key = some job ∧ job.status ∈ statuses := by
  simp only [withStatus, Finset.mem_filter, Finmap.mem_keys, Option.any_eq_true, decide_eq_true_eq]
  constructor
  · exact And.right
  · rintro ⟨job, hjob, hstatus⟩
    exact ⟨Finmap.mem_of_lookup_eq_some hjob, job, hjob, hstatus⟩

theorem card_withStatus_cons (h : status ∉ second :: statuses) :
    (withStatus (status :: second :: statuses) jobs).card
      = (withStatus [status] jobs).card + (withStatus (second :: statuses) jobs).card := by
  have hdisjoint : Disjoint (withStatus [status] jobs) (withStatus (second :: statuses) jobs) := by
    rw [Finset.disjoint_left]
    intro key hone hothers
    obtain ⟨job, hjob, hstatus⟩ := mem_withStatus.mp hone
    obtain ⟨job', hjob', hstatus'⟩ := mem_withStatus.mp hothers
    rw [hjob] at hjob'
    cases hjob'
    rw [List.mem_singleton.mp hstatus] at hstatus'
    exact h hstatus'
  rw [← Finset.card_union_of_disjoint hdisjoint]
  congr 1
  ext key
  rw [Finset.mem_union, mem_withStatus, mem_withStatus, mem_withStatus, ← exists_or]
  refine exists_congr fun job => ?_
  rw [← and_or_left, List.mem_cons, List.mem_singleton]

/-- Every row has one of the statuses. -/
theorem withStatus_all (jobs : JobTable) :
    withStatus [.queued, .running, .failed, .deadLetter, .succeeded] jobs = jobs.keys := by
  ext key
  rw [mem_withStatus, Finmap.mem_keys, Finmap.mem_iff]
  refine exists_congr fun job => and_iff_left_of_imp fun _ => ?_
  cases job.status <;> simp

end SystemRepository

theorem OneEach.card_eq {rows : Finset JobId} {tickets : List Ticket} (h : OneEach tickets rows) :
    rows.card = tickets.length := by
  have hrows : rows = (tickets.map (·.key)).toFinset := by
    ext key
    simp [h.2]
  rw [hrows, List.toFinset_card_of_nodup h.1, List.length_map]

theorem JobsAccounted.queued_oneEach (h : JobsAccounted s) :
    OneEach s.queue (withStatus [.queued] s.jobs) := by
  refine ⟨h.nodup, fun key => ?_⟩
  simp only [mem_withStatus, List.mem_singleton]
  constructor
  · rintro ⟨job, hjob, hstatus⟩
    exact h.placed key job hjob hstatus
  · rintro ⟨ticket, hmem, rfl⟩
    obtain ⟨-, job, hjob, hstatus, -⟩ := h.queued ticket hmem
    exact ⟨job, hjob, hstatus⟩

theorem JobsAccounted.failed_oneEach (h : JobsAccounted s) :
    OneEach s.scheduled (withStatus [.failed] s.jobs) := by
  refine ⟨h.scheduledNodup, fun key => ?_⟩
  simp only [mem_withStatus, List.mem_singleton]
  constructor
  · rintro ⟨job, hjob, hstatus⟩
    exact h.failedScheduled key job hjob hstatus
  · rintro ⟨ticket, hmem, rfl⟩
    exact h.scheduledFailed ticket hmem

theorem mem_busyWorkers : pid ∈ s.busyWorkers ↔ ∃ ticket held, Busy s pid ticket held := by
  simp only [System.busyWorkers, Finset.mem_filter, Finmap.mem_keys, Option.any_eq_true, Busy]
  constructor
  · rintro ⟨-, ⟨withScheduler, busy⟩, hworker, hbusy⟩
    obtain ⟨⟨ticket, held⟩, rfl⟩ := Option.isSome_iff_exists.mp hbusy
    exact ⟨ticket, held, withScheduler, hworker⟩
  · rintro ⟨ticket, held, withScheduler, hworker⟩
    exact ⟨Finmap.mem_of_lookup_eq_some hworker, _, hworker, rfl⟩

theorem Busy.executing_eq (h : Busy s pid ticket held) : s.executing pid = ticket.key := by
  obtain ⟨withScheduler, hworker⟩ := h
  simp [System.executing, hworker]

/-- Each busy worker executes a running row of its own, and every running row is executed. -/
theorem JobsAccounted.running_bijOn (h : JobsAccounted s) :
    Set.BijOn s.executing s.busyWorkers (withStatus [.running] s.jobs) := by
  refine ⟨fun pid hpid => ?_, fun pid hpid pid' hpid' hsame => ?_, fun key hkey => ?_⟩
  · obtain ⟨ticket, held, hbusy⟩ := mem_busyWorkers.mp hpid
    obtain ⟨-, job, hjob, hstatus, -⟩ := h.executing pid ticket held hbusy
    rw [hbusy.executing_eq]
    exact mem_withStatus.mpr ⟨job, hjob, by simp [hstatus]⟩
  · obtain ⟨ticket, held, hbusy⟩ := mem_busyWorkers.mp hpid
    obtain ⟨ticket', held', hbusy'⟩ := mem_busyWorkers.mp hpid'
    rw [hbusy.executing_eq, hbusy'.executing_eq] at hsame
    exact h.alone pid pid' ticket ticket' held held' hbusy hbusy' hsame
  · obtain ⟨job, hjob, hstatus⟩ := mem_withStatus.mp hkey
    obtain ⟨pid, ticket, held, hbusy, hsame⟩ := h.held key job hjob (List.mem_singleton.mp hstatus)
    exact ⟨pid, mem_busyWorkers.mpr ⟨ticket, held, hbusy⟩, hbusy.executing_eq.trans hsame⟩

theorem JobsAccounted.card_running (h : JobsAccounted s) :
    (withStatus [.running] s.jobs).card = s.busyWorkers.card := by
  have himage : s.busyWorkers.image s.executing = withStatus [.running] s.jobs :=
    Finset.coe_injective (by rw [Finset.coe_image, h.running_bijOn.image_eq])
  rw [← himage, Finset.card_image_of_injOn h.running_bijOn.injOn]

/-! ## Runs

From the empty system on. -/

/-- A step takes no failed job off the report. -/
theorem JobsAccounted.failed_subset (h : JobsAccounted s) {event : QueueEvent}
    (hstep : s.step event = some s') :
    withStatus [.failed, .deadLetter] s.jobs ⊆ withStatus [.failed, .deadLetter] s'.jobs := by
  intro key hkey
  obtain ⟨job, hjob, hstatus⟩ := mem_withStatus.mp hkey
  rcases h.lookup_step hstep key with hsame | ⟨hqueued, -⟩ |
    ⟨pid, now, outcome, ticket, held, -, hbusy, rfl⟩
  · exact mem_withStatus.mpr ⟨job, hsame.trans hjob, hstatus⟩
  · simp [hqueued job hjob] at hstatus
  · obtain ⟨-, other, hother, hrunning, -⟩ := h.executing pid ticket held hbusy
    rw [hjob] at hother
    cases hother
    simp [hrunning] at hstatus

/-- **The status report accounts for every job.**  In every state the queue and its workers reach, and
after it: which rows the tickets and the workers are of, the figures of the report, and what they come to. -/
theorem SystemService.status_accounts {events : List QueueEvent}
    (h : exec System.step .empty events = some s) :
    OneEach s.queue (withStatus [.queued] s.jobs) ∧
    OneEach s.scheduled (withStatus [.failed] s.jobs) ∧
    Set.BijOn s.executing s.busyWorkers (withStatus [.running] s.jobs) ∧
    queueDepth (.ok s.queue.length) = (withStatus [.queued] s.jobs).card ∧
    failedJobCount s.jobs = s.scheduled.length + (withStatus [.deadLetter] s.jobs).card ∧
    s.jobs.keys.card = queueDepth (.ok s.queue.length) + s.busyWorkers.card + failedJobCount s.jobs
      + (withStatus [.succeeded] s.jobs).card ∧
    ∀ later t, exec System.step s later = some t → failedJobCount s.jobs ≤ failedJobCount t.jobs := by
  have hs : JobsAccounted s := exec_invariant (fun _ _ _ hs he => hs.step he) accounted_empty h
  have hqueued := hs.queued_oneEach.card_eq
  have hscheduled := hs.failed_oneEach.card_eq
  have hfailed : failedJobCount s.jobs
      = s.scheduled.length + (withStatus [.deadLetter] s.jobs).card := by
    rw [failedJobCount, card_withStatus_cons (by simp), hscheduled]
  refine ⟨hs.queued_oneEach, hs.failed_oneEach, hs.running_bijOn, hqueued.symm, hfailed, ?_,
    fun later t hlater => ?_⟩
  · rw [hfailed, ← withStatus_all, card_withStatus_cons (by simp), card_withStatus_cons (by simp),
      card_withStatus_cons (by simp), card_withStatus_cons (by simp), hqueued, hs.card_running,
      hscheduled, queueDepth]
    omega
  · have hkept : JobsAccounted t ∧
        withStatus [.failed, .deadLetter] s.jobs ⊆ withStatus [.failed, .deadLetter] t.jobs :=
      exec_invariant (p := fun t => JobsAccounted t ∧
          withStatus [.failed, .deadLetter] s.jobs ⊆ withStatus [.failed, .deadLetter] t.jobs)
        (fun _ _ _ hu he => ⟨hu.1.step he, hu.2.trans (hu.1.failed_subset he)⟩)
        ⟨hs, subset_rfl⟩ hlater
    exact Finset.card_le_card hkept.2

/-- One job failed, a second one is executed, and a third one is waiting. -/
theorem SystemService.status_accounts_oneFailed : ∃ s,
    exec System.step .empty (oneExecution (.raises ⟨"SourceFetchError", "429"⟩)
      ++ [.enqueue 8 "noop" (.obj []) 1, .startWorker 2, .take 2 0, .enqueue 9 "noop" (.obj []) 1])
        = some s ∧
    OneEach s.queue (withStatus [.queued] s.jobs) ∧ s.queue.map (·.key) = [9] ∧
    OneEach s.scheduled (withStatus [.failed] s.jobs) ∧ s.scheduled.map (·.key) = [7] ∧
    Set.BijOn s.executing s.busyWorkers (withStatus [.running] s.jobs) ∧ s.executing 2 = 8 ∧
    failedJobCount s.jobs = 1 + (withStatus [.deadLetter] s.jobs).card := by
  obtain ⟨s, hrun, hqueue, hscheduled, hexecuting⟩ : ∃ s, exec System.step .empty
      (oneExecution (.raises ⟨"SourceFetchError", "429"⟩)
        ++ [.enqueue 8 "noop" (.obj []) 1, .startWorker 2, .take 2 0, .enqueue 9 "noop" (.obj []) 1])
        = some s ∧
      s.queue.map (·.key) = [9] ∧ s.scheduled.map (·.key) = [7] ∧ s.executing 2 = 8 :=
    ⟨_, rfl, rfl, rfl, rfl⟩
  obtain ⟨hqueued, hwaiting, hbusy, -, hfailed, -⟩ := status_accounts hrun
  have hlength : s.scheduled.length = 1 := by simpa using congrArg List.length hscheduled
  rw [hlength] at hfailed
  exact ⟨s, hrun, hqueued, hqueue, hwaiting, hscheduled, hbusy, hexecuting, hfailed⟩

end ReviewSignal
