import ReviewSignal.Foundations.Pool
import ReviewSignal.Worker.System

/-!
# Submissions that fail half-way

Any number of `enqueue` calls and workers, over one `jobs` table and one RQ queue.  A call records its
job in a transaction and pushes its delivery to Redis after that; either step may raise, and the
process may die at any moment.  A Redis command that raises may have reached the server all the same
(`loseReply`), and so may a commit: its lost acknowledgement is a `commit` with a `fail` after it.

A worker takes the delivery at the head of the queue and hands it to `run_job`.  A delivery whose
execution raised or died goes to one of RQ's registries, and whatever is in a registry may be put back
in the queue at any moment, or stay where it is.

**Where a queued row's delivery can be** (`submissions_accounted`).  In the queue, in a registry, with a
worker that has taken it and not begun, or with the call that recorded the row: the call has not pushed it
yet, or failed after the commit.  The last case is why the claim is about places and not about a
delivery: a call that fails between its two steps leaves a row that says `queued` and has none, and nothing
in the code looks for such rows (`failed_push_leaves_row`).

**The other way round.**  Every delivery refers to a committed row, for the commit comes before the push;
a call that fails before its commit leaves no row, and one that fails after it does.

The order of the argument is that of the last two paragraphs read backwards.  `Sound` says that deliveries
refer to rows and that a UUID belongs to the call that drew it; under it, `SubmissionMove.accounted` shows
that whoever accounts for a queued row still does after any step of any process.
-/

namespace ReviewSignal

/-- Where an `enqueue` call is. -/
inductive EnqueueCall where
  | fresh (jobType : String) (payload : Option Json) (maxAttempts : ℕ)
  /-- The row is flushed, and not committed. -/
  | flushed (key : JobId) (row : Job)
  /-- The row is committed, and the delivery not pushed. -/
  | recorded (key : JobId) (maxAttempts : ℕ)
  | returned (key : JobId)
  /-- It raised, or its process died, before the commit. -/
  | failedAtDb (key : Option JobId)
  /-- It raised, or its process died, after the commit. -/
  | failedAtRedis (key : JobId)
  deriving DecidableEq

/-- Where a worker is. -/
inductive WorkerPhase where
  | idle
  /-- `run_job` is called, and has not committed its first transaction. -/
  | taken (ticket : Ticket)
  | running (ticket : Ticket) (held : Claim)
  deriving DecidableEq

inductive SubmissionProcess where
  | call (call : EnqueueCall)
  | worker (phase : WorkerPhase)
  deriving DecidableEq

/-- The committed `jobs` table, and RQ's queue and registries.  `issued` tells which call drew which
UUID; they are fresh. -/
structure SubmissionStore (ι : Type) where
  jobs : JobTable
  queue : List Ticket
  registries : List Ticket
  issued : JobId → Option ι

inductive SubmissionStep where
  | flush (key : JobId)
  | commit
  | push
  /-- The database raises, or Redis before it has the delivery, or the process dies. -/
  | fail
  /-- Redis has the delivery, and the call raises all the same. -/
  | loseReply
  | take
  | begin (now : Instant)
  | finish (now : Instant) (outcome : HandlerOutcome)
  /-- RQ puts a delivery of a registry back in the queue. -/
  | requeue (index : ℕ)
  deriving DecidableEq

namespace SubmissionStore

variable {ι : Type}

def enqueue (ticket : Ticket) (store : SubmissionStore ι) : SubmissionStore ι :=
  { store with queue := store.queue ++ [ticket] }

def register (ticket : Ticket) (store : SubmissionStore ι) : SubmissionStore ι :=
  { store with registries := store.registries ++ [ticket] }

end SubmissionStore

variable {ι : Type}

/-- One step of an `enqueue` call. -/
def enqueueStep (i : ι) (step : SubmissionStep) (store : SubmissionStore ι) (call : EnqueueCall) :
    Option (SubmissionStore ι × EnqueueCall) :=
  match step, call with
  | .flush key, .fresh jobType payload maxAttempts =>
      if (store.issued key).isSome then none
      else
        let store := { store with issued := Function.update store.issued key (some i) }
        -- `ck_jobs_max_attempts_positive`
        if maxAttempts < 1 then some (store, .failedAtDb (some key))
        else some (store, .flushed key (enqueuedJob jobType (payload.getD (.obj [])) maxAttempts))
  | .commit, .flushed key row =>
      some ({ store with jobs := store.jobs.insert key row }, .recorded key row.maxAttempts)
  | .push, .recorded key maxAttempts =>
      some (store.enqueue (.ofRetry key (retryPolicy maxAttempts)), .returned key)
  | .loseReply, .recorded key maxAttempts =>
      some (store.enqueue (.ofRetry key (retryPolicy maxAttempts)), .failedAtRedis key)
  | .fail, .fresh .. => some (store, .failedAtDb none)
  | .fail, .flushed key _ => some (store, .failedAtDb (some key))
  | .fail, .recorded key _ => some (store, .failedAtRedis key)
  | _, _ => none

/-- One step of a worker. -/
def workerStep (step : SubmissionStep) (store : SubmissionStore ι) (phase : WorkerPhase) :
    Option (SubmissionStore ι × WorkerPhase) :=
  match step, phase with
  | .take, .idle =>
      match store.queue with
      | [] => none
      | ticket :: queue => some ({ store with queue }, .taken ticket)
  | .begin now, .taken ticket =>
      match Runner.begin now ticket.key store.jobs with
      | (none, jobs) => some ({ store with jobs }, .idle)
      | (some held, jobs) => some ({ store with jobs }, .running ticket held)
  | .finish now outcome, .running ticket held =>
      let (raised, jobs) := Runner.record now ticket.key held outcome store.jobs
      let store := { store with jobs }
      some (if raised.isSome then store.register ticket else store, .idle)
  | .fail, .taken ticket | .fail, .running ticket _ => some (store.register ticket, .idle)
  | .requeue index, phase =>
      match store.registries[index]? with
      | none => none
      | some ticket =>
          let store := { store with registries := store.registries.eraseIdx index }
          some (store.enqueue ticket, phase)
  | _, _ => none

/-- One step of one process. -/
def submissionStep (i : ι) (step : SubmissionStep) (store : SubmissionStore ι) :
    SubmissionProcess → Option (SubmissionStore ι × SubmissionProcess)
  | .call call => (enqueueStep i step store call).map (Prod.map id .call)
  | .worker phase => (workerStep step store phase).map (Prod.map id .worker)

/-- What a process is there for. -/
inductive SubmissionRole where
  | enqueue (jobType : String) (payload : Option Json) (maxAttempts : ℕ)
  | worker

/-- Before its first step. -/
def SubmissionRole.process : SubmissionRole → SubmissionProcess
  | .enqueue jobType payload maxAttempts => .call (.fresh jobType payload maxAttempts)
  | .worker => .worker .idle

/-- Nothing recorded, and nothing in Redis. -/
def SubmissionStore.empty : SubmissionStore ι := ⟨∅, [], [], fun _ => none⟩

def submissionStart (role : ι → SubmissionRole) : Pool ι (SubmissionStore ι) SubmissionProcess :=
  ⟨.empty, fun i => (role i).process⟩

/-- **A call on its own** does what the `enqueue` event of `System` does. -/
theorem enqueue_alone {i : ι} {store : SubmissionStore ι} {s : System} (hjobs : s.jobs = store.jobs)
    (hqueue : s.queue = store.queue) {key : JobId} (hissued : store.issued key = none)
    (hkey : key ∉ store.jobs) (jobType : String) (payload : Json) {maxAttempts : ℕ}
    (hmax : 1 ≤ maxAttempts) :
    ∃ store', exec (Pool.solo submissionStep i)
        (store, (SubmissionRole.enqueue jobType (some payload) maxAttempts).process)
        [.flush key, .commit, .push] = some (store', .call (.returned key)) ∧
      s.step (.enqueue key jobType payload maxAttempts)
        = some { s with jobs := store'.jobs, queue := store'.queue } := by
  have hpositive : ¬ maxAttempts < 1 := not_lt.mpr hmax
  refine ⟨{ store with
      jobs := store.jobs.insert key (enqueuedJob jobType payload maxAttempts)
      queue := store.queue ++ [.ofRetry key (retryPolicy maxAttempts)]
      issued := Function.update store.issued key (some i) }, ?_, ?_⟩
  · simp [exec, Pool.solo, submissionStep, SubmissionRole.process, enqueueStep, hissued, hpositive,
      SubmissionStore.enqueue, enqueuedJob]
  · simp [System.step, hjobs, hqueue, hkey, hpositive]

/-! ## What a step can do

The moves of a process, with their guards.  Everything below goes by cases on them. -/

/-- The moves of a process. -/
inductive SubmissionMove (i : ι) (store : SubmissionStore ι) :
    SubmissionProcess → SubmissionStore ι → SubmissionProcess → Prop
  | flush {key : JobId} {jobType : String} {payload : Option Json} {maxAttempts : ℕ}
      (hfresh : store.issued key = none) :
      SubmissionMove i store (.call (.fresh jobType payload maxAttempts))
        { store with issued := Function.update store.issued key (some i) }
        (.call (.flushed key (enqueuedJob jobType (payload.getD (.obj [])) maxAttempts)))
  | refuse {key : JobId} {jobType : String} {payload : Option Json} {maxAttempts : ℕ}
      (hfresh : store.issued key = none) :
      SubmissionMove i store (.call (.fresh jobType payload maxAttempts))
        { store with issued := Function.update store.issued key (some i) }
        (.call (.failedAtDb (some key)))
  | commit (key : JobId) (row : Job) : SubmissionMove i store (.call (.flushed key row))
      { store with jobs := store.jobs.insert key row } (.call (.recorded key row.maxAttempts))
  | push (key : JobId) (maxAttempts : ℕ) {call : EnqueueCall} {ticket : Ticket}
      (hticket : ticket.key = key) (hcall : call = .returned key ∨ call = .failedAtRedis key) :
      SubmissionMove i store (.call (.recorded key maxAttempts)) (store.enqueue ticket) (.call call)
  | failFresh {jobType : String} {payload : Option Json} {maxAttempts : ℕ} :
      SubmissionMove i store (.call (.fresh jobType payload maxAttempts)) store
        (.call (.failedAtDb none))
  | failFlushed (key : JobId) (row : Job) :
      SubmissionMove i store (.call (.flushed key row)) store (.call (.failedAtDb (some key)))
  | failRecorded (key : JobId) (maxAttempts : ℕ) :
      SubmissionMove i store (.call (.recorded key maxAttempts)) store (.call (.failedAtRedis key))
  | take {ticket : Ticket} {queue : List Ticket} (hqueue : store.queue = ticket :: queue) :
      SubmissionMove i store (.worker .idle) { store with queue } (.worker (.taken ticket))
  | begin {ticket : Ticket} {job : Job} (hjob : store.jobs.lookup ticket.key = some job)
      (now : Instant) : SubmissionMove i store (.worker (.taken ticket))
        { store with jobs := store.jobs.insert ticket.key (Runner.running now job) }
        (.worker (.running ticket (Runner.claim (Runner.running now job))))
  | missing {ticket : Ticket} (hjob : store.jobs.lookup ticket.key = none) :
      SubmissionMove i store (.worker (.taken ticket)) store (.worker .idle)
  | finish (ticket : Ticket) (held : Claim) (now : Instant) (outcome : HandlerOutcome)
      {store' : SubmissionStore ι}
      (hstore : store' = { store with
          jobs := (Runner.record now ticket.key held outcome store.jobs).2 } ∨
        store' = SubmissionStore.register ticket { store with
          jobs := (Runner.record now ticket.key held outcome store.jobs).2 }) :
      SubmissionMove i store (.worker (.running ticket held)) store' (.worker .idle)
  | fail {ticket : Ticket} {phase : WorkerPhase}
      (hphase : phase = .taken ticket ∨ ∃ held, phase = .running ticket held) :
      SubmissionMove i store (.worker phase) (store.register ticket) (.worker .idle)
  | requeue (phase : WorkerPhase) {index : ℕ} {ticket : Ticket}
      (hticket : store.registries[index]? = some ticket) : SubmissionMove i store (.worker phase)
        ({ store with registries := store.registries.eraseIdx index }.enqueue ticket) (.worker phase)

variable {i j : ι} {step : SubmissionStep} {store store' : SubmissionStore ι}
  {process process' : SubmissionProcess} {call call' : EnqueueCall} {phase phase' : WorkerPhase}
  {key : JobId} {ticket : Ticket}

theorem enqueueStep_move (h : enqueueStep i step store call = some (store', call')) :
    SubmissionMove i store (.call call) store' (.call call') := by
  unfold enqueueStep at h
  split at h
  · split_ifs at h with hissued hmax
    · cases h
      exact .refuse (Option.not_isSome_iff_eq_none.mp hissued)
    · cases h
      exact .flush (Option.not_isSome_iff_eq_none.mp hissued)
  · cases h
    exact .commit _ _
  · cases h
    exact .push _ _ rfl (.inl rfl)
  · cases h
    exact .push _ _ rfl (.inr rfl)
  · cases h
    exact .failFresh
  · cases h
    exact .failFlushed _ _
  · cases h
    exact .failRecorded _ _
  · cases h

theorem workerStep_move (h : workerStep step store phase = some (store', phase')) :
    SubmissionMove i store (.worker phase) store' (.worker phase') := by
  unfold workerStep at h
  split at h
  · split at h
    · cases h
    · cases h
      exact .take ‹_›
  · rename_i now ticket
    rw [Runner.begin] at h
    cases hjob : store.jobs.lookup ticket.key with
    | none =>
        rw [hjob] at h
        cases h
        exact .missing hjob
    | some job =>
        rw [hjob] at h
        cases h
        exact .begin hjob now
  · rename_i now outcome ticket held
    cases h
    refine .finish ticket held now outcome ?_
    split_ifs
    · exact .inr rfl
    · exact .inl rfl
  · cases h
    exact .fail (.inl rfl)
  · cases h
    exact .fail (.inr ⟨_, rfl⟩)
  · split at h
    · cases h
    · cases h
      exact .requeue _ ‹_›
  · cases h

/-- **Inversion.** -/
theorem submissionStep_move (h : submissionStep i step store process = some (store', process')) :
    SubmissionMove i store process store' process' := by
  cases process with
  | call call =>
      obtain ⟨⟨store₁, call'⟩, hstep, heq⟩ := Option.map_eq_some_iff.mp h
      cases heq
      exact enqueueStep_move hstep
  | worker phase =>
      obtain ⟨⟨store₁, phase'⟩, hstep, heq⟩ := Option.map_eq_some_iff.mp h
      cases heq
      exact workerStep_move hstep

/-! ## Deliveries refer to committed rows

The invariant has a part on the shared tables, one on each process, and one on what a process tolerates of
the others (`Keeps`): rows stay, and nobody else commits a row under its UUIDs. -/

/-- The committed row a process is about to push the delivery of, or holds it. -/
def SubmissionProcess.refersTo : SubmissionProcess → Option JobId
  | .call (.recorded key _) | .call (.failedAtRedis key) => some key
  | .worker (.taken ticket) | .worker (.running ticket _) => some ticket.key
  | _ => none

/-- The row a call has not committed, and perhaps never will. -/
def SubmissionProcess.uncommitted : SubmissionProcess → Option JobId
  | .call (.flushed key _) => some key
  | .call (.failedAtDb key) => key
  | _ => none

/-- What holds of the tables and of RQ. -/
structure SubmissionStore.Sound (store : SubmissionStore ι) : Prop where
  queue : ∀ ticket ∈ store.queue, ticket.key ∈ store.jobs
  registries : ∀ ticket ∈ store.registries, ticket.key ∈ store.jobs
  issued : ∀ key ∈ store.jobs, store.issued key ≠ none

/-- What holds of a process. -/
structure SubmissionProcess.Sound (i : ι) (store : SubmissionStore ι) (process : SubmissionProcess) :
    Prop where
  refersTo : ∀ key, process.refersTo = some key → key ∈ store.jobs
  uncommitted : ∀ key, process.uncommitted = some key → store.issued key = some i ∧ key ∉ store.jobs

/-- What a process tolerates: rows stay, and nobody else commits a row under its UUIDs. -/
structure SubmissionStore.Keeps (j : ι) (store store' : SubmissionStore ι) : Prop where
  jobs : ∀ key ∈ store.jobs, key ∈ store'.jobs
  issued : ∀ key, store.issued key = some j → store'.issued key = some j
  uncommitted : ∀ key, store.issued key = some j → key ∉ store.jobs → key ∉ store'.jobs

theorem SubmissionProcess.Sound.stable (h : store.Keeps i store') (hprocess : process.Sound i store) :
    process.Sound i store' where
  refersTo key hkey := h.jobs key (hprocess.refersTo key hkey)
  uncommitted key hkey := by
    obtain ⟨hissued, hjobs⟩ := hprocess.uncommitted key hkey
    exact ⟨h.issued key hissued, h.uncommitted key hissued hjobs⟩

namespace SubmissionStore.Keeps

theorem of_eq (hjobs : ∀ key, key ∈ store'.jobs ↔ key ∈ store.jobs)
    (hissued : store'.issued = store.issued) : store.Keeps j store' where
  jobs key := (hjobs key).mpr
  issued key h := by rwa [hissued]
  uncommitted key _ := mt (hjobs key).mp

/-- A UUID is drawn once. -/
theorem issue (hfresh : store.issued key = none) (i : ι) :
    store.Keeps j { store with issued := Function.update store.issued key (some i) } where
  jobs _ h := h
  issued other h := by
    have hne : other ≠ key := by
      rintro rfl
      simp [hfresh] at h
    simpa [hne] using h
  uncommitted _ _ h := h

theorem commit (hissued : store.issued key = some i) (hj : j ≠ i) (row : Job) :
    store.Keeps j { store with jobs := store.jobs.insert key row } where
  jobs other h := Finmap.mem_insert.mpr (.inr h)
  issued _ h := h
  uncommitted other h hjobs := by
    rw [Finmap.mem_insert]
    rintro (rfl | hmem)
    · exact hj (Option.some.inj (h.symm.trans hissued))
    · exact hjobs hmem

end SubmissionStore.Keeps

theorem mem_insert_of_lookup {job row : Job} {jobs : JobTable} (h : jobs.lookup key = some job)
    (other : JobId) : other ∈ jobs.insert key row ↔ other ∈ jobs := by
  rw [Finmap.mem_insert, or_iff_right_of_imp]
  rintro rfl
  exact Finmap.mem_of_lookup_eq_some h

theorem Runner.mem_record {now : Instant} {held : Claim} {outcome : HandlerOutcome} {jobs : JobTable} :
    key ∈ (Runner.record now ticket.key held outcome jobs).2 ↔ key ∈ jobs := by
  rw [← Finmap.lookup_isSome, ← Finmap.lookup_isSome]
  by_cases hkey : key = ticket.key
  · rw [hkey, Runner.lookup_record_self, Option.isSome_map]
  · rw [Runner.lookup_record_of_ne hkey]

/-- **What a step does to the others.** -/
theorem SubmissionMove.keeps (hj : j ≠ i) (hprocess : process.Sound i store)
    (h : SubmissionMove i store process store' process') : store.Keeps j store' := by
  cases h with
  | flush hfresh | refuse hfresh => exact .issue hfresh i
  | commit key row => exact .commit (hprocess.uncommitted key rfl).1 hj row
  | begin hjob now => exact .of_eq (mem_insert_of_lookup hjob) rfl
  | finish ticket held now outcome hstore =>
      rcases hstore with rfl | rfl
      · exact .of_eq (fun key => Runner.mem_record) rfl
      · exact .of_eq (fun key => Runner.mem_record) rfl
  | push | failFresh | failFlushed | failRecorded | take | missing | fail | requeue =>
      exact .of_eq (fun _ => .rfl) rfl

namespace SubmissionStore.Sound

theorem register (h : store.Sound) (hticket : ticket.key ∈ store.jobs) :
    (store.register ticket).Sound := by
  refine { h with registries := fun t ht => ?_ }
  rcases List.mem_append.mp ht with ht | ht
  · exact h.registries t ht
  · rwa [List.mem_singleton.mp ht]

theorem enqueue (h : store.Sound) (hticket : ticket.key ∈ store.jobs) :
    (store.enqueue ticket).Sound := by
  refine { h with queue := fun t ht => ?_ }
  rcases List.mem_append.mp ht with ht | ht
  · exact h.queue t ht
  · rwa [List.mem_singleton.mp ht]

/-- An update of rows keeps their keys. -/
theorem update {jobs : JobTable} (h : store.Sound) (hjobs : ∀ key, key ∈ jobs ↔ key ∈ store.jobs) :
    SubmissionStore.Sound { store with jobs } where
  queue ticket hticket := (hjobs _).mpr (h.queue ticket hticket)
  registries ticket hticket := (hjobs _).mpr (h.registries ticket hticket)
  issued key hkey := h.issued key ((hjobs key).mp hkey)

theorem issue (h : store.Sound) (key : JobId) (i : ι) :
    SubmissionStore.Sound { store with issued := Function.update store.issued key (some i) } := by
  refine { h with issued := fun other hother => ?_ }
  by_cases hkey : other = key
  · simp [hkey]
  · simpa [hkey] using h.issued other hother

theorem commit (h : store.Sound) (hissued : store.issued key = some i) (row : Job) :
    SubmissionStore.Sound { store with jobs := store.jobs.insert key row } where
  queue ticket hticket := Finmap.mem_insert.mpr (.inr (h.queue ticket hticket))
  registries ticket hticket := Finmap.mem_insert.mpr (.inr (h.registries ticket hticket))
  issued other hother := by
    rcases Finmap.mem_insert.mp hother with rfl | hmem
    · simp [hissued]
    · exact h.issued other hmem

end SubmissionStore.Sound

/-- **What a step does to the tables and to RQ.** -/
theorem SubmissionMove.sound_store (hstore : store.Sound) (hprocess : process.Sound i store)
    (h : SubmissionMove i store process store' process') : store'.Sound := by
  cases h with
  | flush hfresh | refuse hfresh => exact hstore.issue _ i
  | commit key row => exact hstore.commit (hprocess.uncommitted key rfl).1 row
  | push key maxAttempts hticket hcall => exact hstore.enqueue (hticket ▸ hprocess.refersTo key rfl)
  | take hqueue =>
      refine { hstore with queue := fun ticket hticket => hstore.queue ticket ?_ }
      rw [hqueue]
      exact List.mem_cons_of_mem _ hticket
  | begin hjob now => exact hstore.update (mem_insert_of_lookup hjob)
  | finish ticket held now outcome hafter =>
      have hupdated : SubmissionStore.Sound { store with
          jobs := (Runner.record now ticket.key held outcome store.jobs).2 } :=
        hstore.update fun key => Runner.mem_record
      rcases hafter with rfl | rfl
      · exact hupdated
      · exact hupdated.register (Runner.mem_record.mpr (hprocess.refersTo _ rfl))
  | fail hphase =>
      refine hstore.register ?_
      rcases hphase with rfl | ⟨held, rfl⟩
      · exact hprocess.refersTo _ rfl
      · exact hprocess.refersTo _ rfl
  | requeue phase hticket =>
      refine SubmissionStore.Sound.enqueue { hstore with registries := fun ticket hmem => ?_ } ?_
      · exact hstore.registries ticket (List.mem_of_mem_eraseIdx hmem)
      · exact hstore.registries _ (List.mem_of_getElem? hticket)
  | failFresh | failFlushed | failRecorded | missing => exact hstore

theorem SubmissionProcess.Sound.of_none (hrefersTo : process.refersTo = none)
    (huncommitted : process.uncommitted = none) : process.Sound i store where
  refersTo key h := by simp [hrefersTo] at h
  uncommitted key h := by simp [huncommitted] at h

theorem SubmissionProcess.Sound.of_mem (hrefersTo : process.refersTo = some key)
    (huncommitted : process.uncommitted = none) (hkey : key ∈ store.jobs) :
    process.Sound i store where
  refersTo other h := by
    obtain rfl : key = other := Option.some.inj (hrefersTo.symm.trans h)
    exact hkey
  uncommitted other h := by simp [huncommitted] at h

theorem SubmissionProcess.Sound.of_issued (hrefersTo : process.refersTo = none)
    (huncommitted : process.uncommitted = some key) (hissued : store.issued key = some i)
    (hkey : key ∉ store.jobs) : process.Sound i store where
  refersTo other h := by simp [hrefersTo] at h
  uncommitted other h := by
    obtain rfl : key = other := Option.some.inj (huncommitted.symm.trans h)
    exact ⟨hissued, hkey⟩

/-- **What a step does to the process that takes it.** -/
theorem SubmissionMove.sound_process (hstore : store.Sound) (hprocess : process.Sound i store)
    (h : SubmissionMove i store process store' process') : process'.Sound i store' := by
  cases h with
  | flush hfresh | refuse hfresh =>
      exact .of_issued rfl rfl (by simp) fun hmem => hstore.issued _ hmem hfresh
  | commit key row => exact .of_mem rfl rfl (Finmap.mem_insert.mpr (.inl rfl))
  | push key maxAttempts hticket hcall =>
      rcases hcall with rfl | rfl
      · exact .of_none rfl rfl
      · exact .of_mem rfl rfl (hprocess.refersTo key rfl)
  | failFresh => exact .of_none rfl rfl
  | failFlushed key row =>
      obtain ⟨hissued, hjobs⟩ := hprocess.uncommitted key rfl
      exact .of_issued rfl rfl hissued hjobs
  | failRecorded key maxAttempts => exact .of_mem rfl rfl (hprocess.refersTo key rfl)
  | take hqueue =>
      refine .of_mem rfl rfl (hstore.queue _ ?_)
      rw [hqueue]
      exact List.mem_cons_self
  | begin hjob now =>
      exact .of_mem rfl rfl ((mem_insert_of_lookup hjob _).mpr (Finmap.mem_of_lookup_eq_some hjob))
  | missing | finish | fail => exact .of_none rfl rfl
  | requeue phase hticket => exact ⟨hprocess.refersTo, hprocess.uncommitted⟩

/-! ## Queued rows are accounted for

A row is `queued` from its commit to the first transaction of an execution.  In between the delivery passes
from the call to the queue, to a worker, to a registry and back. -/

/-- The row whose delivery a process is about to push, gave up pushing, or took and has not begun to
execute. -/
def SubmissionProcess.holding : SubmissionProcess → Option JobId
  | .call (.recorded key _) | .call (.failedAtRedis key) => some key
  | .worker (.taken ticket) => some ticket.key
  | _ => none

/-- RQ has a delivery of the row, in its queue or in a registry. -/
def SubmissionStore.Delivers (store : SubmissionStore ι) (key : JobId) : Prop :=
  (∃ ticket ∈ store.queue, ticket.key = key) ∨ ∃ ticket ∈ store.registries, ticket.key = key

/-- RQ or the process accounts for the row. -/
def AccountedBy (store : SubmissionStore ι) (process : SubmissionProcess) (key : JobId) : Prop :=
  store.Delivers key ∨ process.holding = some key

/-- The row is `queued`. -/
def SubmissionStore.Queued (store : SubmissionStore ι) (key : JobId) : Prop :=
  ∃ job, store.jobs.lookup key = some job ∧ job.status = .queued

namespace SubmissionStore

theorem delivers_enqueue :
    (store.enqueue ticket).Delivers key ↔ store.Delivers key ∨ ticket.key = key := by
  simp only [Delivers, enqueue, List.mem_append, List.mem_singleton, or_and_right, exists_or,
    exists_eq_left]
  exact or_right_comm

theorem delivers_register :
    (store.register ticket).Delivers key ↔ store.Delivers key ∨ ticket.key = key := by
  simp only [Delivers, register, List.mem_append, List.mem_singleton, or_and_right, exists_or,
    exists_eq_left, or_assoc]

/-- A delivery that is put back stays with RQ. -/
theorem delivers_requeue {index : ℕ} (h : store.registries[index]? = some ticket) :
    ({ store with registries := store.registries.eraseIdx index }.enqueue ticket).Delivers key ↔
      store.Delivers key := by
  have hregistries : (∃ t ∈ store.registries, t.key = key) ↔
      (∃ t ∈ store.registries.eraseIdx index, t.key = key) ∨ ticket.key = key := by
    have hperm := List.getElem?_eq_some_iff.mp h
    obtain ⟨hlt, rfl⟩ := hperm
    constructor
    · rintro ⟨t, ht, rfl⟩
      by_cases hsame : t.key = store.registries[index].key
      · exact .inr hsame.symm
      · refine .inl ⟨t, ?_, rfl⟩
        rw [List.mem_eraseIdx_iff_getElem]
        obtain ⟨n, hn, rfl⟩ := List.mem_iff_getElem.mp ht
        exact ⟨n, hn, fun heq => hsame (by subst heq; rfl), rfl⟩
    · rintro (⟨t, ht, rfl⟩ | rfl)
      · exact ⟨t, List.mem_of_mem_eraseIdx ht, rfl⟩
      · exact ⟨_, List.getElem_mem hlt, rfl⟩
  rw [delivers_enqueue, Delivers, Delivers, hregistries, or_assoc]

end SubmissionStore

/-- Recording an outcome leaves no row `queued` that was not. -/
theorem queued_of_record {now : Instant} {held : Claim} {outcome : HandlerOutcome}
    (h : SubmissionStore.Queued { store with
      jobs := (Runner.record now ticket.key held outcome store.jobs).2 } key) : store.Queued key := by
  obtain ⟨job, hlookup, hstatus⟩ := h
  by_cases hkey : key = ticket.key
  · subst hkey
    rw [Runner.lookup_record_self] at hlookup
    obtain ⟨row, -, rfl⟩ := Option.map_eq_some_iff.mp hlookup
    exact absurd hstatus Runner.status_outcomeRow.1
  · rw [Runner.lookup_record_of_ne hkey] at hlookup
    exact ⟨job, hlookup, hstatus⟩

/-- **What a step does to a queued row.**  It was one before, or is accounted for now; and who
accounted for it still does. -/
theorem SubmissionMove.accounted (h : SubmissionMove i store process store' process')
    (hqueued : store'.Queued key) :
    (store.Queued key ∨ AccountedBy store' process' key) ∧
      (AccountedBy store process key → AccountedBy store' process' key) := by
  cases h with
  | flush | refuse | failFresh | failFlushed => exact ⟨.inl hqueued, fun h => h.imp_right nofun⟩
  | commit committed row =>
      refine ⟨?_, fun h => h.imp_right nofun⟩
      by_cases hkey : key = committed
      · exact .inr (.inr (by rw [hkey]; rfl))
      · obtain ⟨job, hjob, hstatus⟩ := hqueued
        exact .inl ⟨job, by rwa [Finmap.lookup_insert_of_ne _ hkey] at hjob, hstatus⟩
  | push pushed maxAttempts hticket hcall =>
      refine ⟨.inl hqueued, fun h => .inl (SubmissionStore.delivers_enqueue.mpr ?_)⟩
      refine h.imp_right fun hholding => ?_
      exact hticket.trans (Option.some.inj hholding)
  | failRecorded recorded maxAttempts => exact ⟨.inl hqueued, id⟩
  | take hqueue =>
      refine ⟨.inl hqueued, fun h => ?_⟩
      rcases h with (⟨ticket, hticket, rfl⟩ | hregistries) | hholding
      · rw [hqueue] at hticket
        rcases List.mem_cons.mp hticket with rfl | hticket
        · exact .inr rfl
        · exact .inl (.inl ⟨ticket, hticket, rfl⟩)
      · exact .inl (.inr hregistries)
      · cases hholding
  | @begin ticket row hjob now =>
      obtain ⟨job, hlookup, hstatus⟩ := hqueued
      have hkey : key ≠ ticket.key := by
        rintro rfl
        rw [Finmap.lookup_insert, Option.some.injEq] at hlookup
        subst hlookup
        cases hstatus
      rw [Finmap.lookup_insert_of_ne _ hkey] at hlookup
      refine ⟨.inl ⟨job, hlookup, hstatus⟩, fun h => .inl ?_⟩
      exact h.resolve_right fun hholding => hkey (Option.some.inj hholding).symm
  | missing hjob =>
      refine ⟨.inl hqueued, fun h => .inl (h.resolve_right fun hholding => ?_)⟩
      obtain ⟨job, hlookup, -⟩ := hqueued
      rw [← Option.some.inj hholding, hjob] at hlookup
      cases hlookup
  | finish ticket held now outcome hafter =>
      have hbefore : store.Queued key := by
        rcases hafter with rfl | rfl
        · exact queued_of_record hqueued
        · exact queued_of_record hqueued
      refine ⟨.inl hbefore, fun h => .inl ?_⟩
      have hdelivers := h.resolve_right nofun
      rcases hafter with rfl | rfl
      · exact hdelivers
      · exact SubmissionStore.delivers_register.mpr (.inl hdelivers)
  | fail hphase =>
      refine ⟨.inl hqueued, fun h => .inl (SubmissionStore.delivers_register.mpr ?_)⟩
      refine h.imp_right fun hholding => ?_
      rcases hphase with rfl | ⟨held, rfl⟩
      · exact Option.some.inj hholding
      · cases hholding
  | requeue phase hticket =>
      exact ⟨.inl hqueued, fun h => h.imp_left (SubmissionStore.delivers_requeue hticket).mpr⟩

/-! ## Runs

From the empty tables on, for every role the processes may have. -/

variable [DecidableEq ι] {role : ι → SubmissionRole}
  {s s' : Pool ι (SubmissionStore ι) SubmissionProcess} {events : List (ι × SubmissionStep)}

/-- RQ or some process accounts for the row. -/
def RowAccounted (s : Pool ι (SubmissionStore ι) SubmissionProcess) (key : JobId) : Prop :=
  s.shared.Delivers key ∨ ∃ i, (s.proc i).holding = some key

theorem accounted_step {e : ι × SubmissionStep} (h : Pool.step submissionStep s e = some s')
    (hs : ∀ key, s.shared.Queued key → RowAccounted s key) (hqueued : s'.shared.Queued key) :
    RowAccounted s' key := by
  obtain ⟨i, step⟩ := e
  obtain ⟨store', process', hact, rfl⟩ := Pool.step_eq_some.mp h
  obtain ⟨hbefore, hkept⟩ := (submissionStep_move hact).accounted hqueued
  have hself : AccountedBy store' process' key →
      RowAccounted ⟨store', Function.update s.proc i process'⟩ key := by
    rintro (hdelivers | hholding)
    · exact .inl hdelivers
    · exact .inr ⟨i, by simpa using hholding⟩
  rcases hbefore with hbefore | hnew
  · rcases hs key hbefore with hdelivers | ⟨j, hj⟩
    · exact hself (hkept (.inl hdelivers))
    · by_cases hji : j = i
      · subst hji
        exact hself (hkept (.inr hj))
      · exact .inr ⟨j, by simpa [hji] using hj⟩
  · exact hself hnew

theorem accounted_run (h : exec (Pool.step submissionStep) (submissionStart role) events = some s) :
    ∀ key, s.shared.Queued key → RowAccounted s key := by
  refine exec_invariant (fun s e s' hs hstep key => accounted_step hstep hs) ?_ h
  rintro key ⟨job, hjob, -⟩
  cases hjob

theorem sound_run (h : exec (Pool.step submissionStep) (submissionStart role) events = some s) :
    s.Holds SubmissionStore.Sound SubmissionProcess.Sound := by
  refine Pool.exec_holds SubmissionStore.Keeps (fun j store store' process hkeeps hprocess =>
    hprocess.stable hkeeps) ?_ ⟨?_, fun i => ?_⟩ h
  · intro i step store process store' process' hstore hprocess hstep
    have hmove := submissionStep_move hstep
    exact ⟨hmove.sound_store hstore hprocess, hmove.sound_process hstore hprocess,
      fun j hj => hmove.keeps hj hprocess⟩
  · exact ⟨fun _ h => absurd h List.not_mem_nil, fun _ h => absurd h List.not_mem_nil,
      fun _ h => absurd h Finmap.notMem_empty⟩
  · cases hrole : role i <;> simp only [submissionStart, hrole] <;> exact .of_none rfl rfl

theorem holding_eq_some {process : SubmissionProcess} : process.holding = some key ↔
    (∃ maxAttempts, process = .call (.recorded key maxAttempts)) ∨
    process = .call (.failedAtRedis key) ∨
    ∃ ticket, process = .worker (.taken ticket) ∧ ticket.key = key := by
  rcases process with (_ | _ | _ | _ | _ | _) | (_ | _ | _) <;>
    simp [SubmissionProcess.holding, eq_comm]

/-- **Where a submission can be.**  At every moment of every interleaving of `enqueue` calls and
workers: a row that is `queued` has a delivery in the queue, or belongs to a call that has not pushed
it yet, or to one that failed after its commit, or was taken by a worker that has not committed its first
transaction, or RQ keeps it in a registry since such an execution failed; every delivery in the queue
refers to a committed row; a call that failed before its commit leaves no row, and one that failed
after it leaves its row. -/
theorem submissions_accounted (role : ι → SubmissionRole)
    (h : exec (Pool.step submissionStep) (submissionStart role) events = some s) :
    (∀ key, s.shared.Queued key →
      (∃ ticket ∈ s.shared.queue, ticket.key = key) ∨
      (∃ i maxAttempts, s.proc i = .call (.recorded key maxAttempts)) ∨
      (∃ i, s.proc i = .call (.failedAtRedis key)) ∨
      (∃ i ticket, s.proc i = .worker (.taken ticket) ∧ ticket.key = key) ∨
      ∃ ticket ∈ s.shared.registries, ticket.key = key) ∧
    (∀ ticket ∈ s.shared.queue, ticket.key ∈ s.shared.jobs) ∧
    (∀ i key, s.proc i = .call (.failedAtDb (some key)) → key ∉ s.shared.jobs) ∧
    ∀ i key, s.proc i = .call (.failedAtRedis key) → key ∈ s.shared.jobs := by
  have hsound := sound_run h
  refine ⟨fun key hqueued => ?_, hsound.shared.queue, fun i key hcall => ?_, fun i key hcall => ?_⟩
  · rcases accounted_run h key hqueued with (hqueue | hregistry) | ⟨i, hholding⟩
    · exact .inl hqueue
    · exact .inr (.inr (.inr (.inr hregistry)))
    · rcases holding_eq_some.mp hholding with ⟨maxAttempts, hcall⟩ | hcall | ⟨ticket, htaken, hkey⟩
      · exact .inr (.inl ⟨i, maxAttempts, hcall⟩)
      · exact .inr (.inr (.inl ⟨i, hcall⟩))
      · exact .inr (.inr (.inr (.inl ⟨i, ticket, htaken, hkey⟩)))
  · have hprocess := hsound.proc i
    rw [hcall] at hprocess
    exact (hprocess.uncommitted key rfl).2
  · have hprocess := hsound.proc i
    rw [hcall] at hprocess
    exact hprocess.refersTo key rfl

/-- An `enqueue` call and a worker. -/
def syncSubmission : Fin 2 → SubmissionRole
  | 0 => .enqueue "google_sync" none 3
  | 1 => .worker

/-- The call is carried out and its delivery is taken. -/
def takenEvents {ι : Type} (i j : ι) : List (ι × SubmissionStep) :=
  [(i, .flush 7), (i, .commit), (i, .push), (j, .take)]

theorem submissions_accounted_taken : ∃ s,
    exec (Pool.step submissionStep) (submissionStart syncSubmission) (takenEvents 0 1) = some s ∧
    s.shared.Queued 7 ∧ ∀ ticket ∈ s.shared.queue, ticket.key ∈ s.shared.jobs := by
  have hrun : exec (Pool.step submissionStep) (submissionStart syncSubmission) (takenEvents 0 1)
      = some _ := rfl
  exact ⟨_, hrun, ⟨_, rfl, rfl⟩, (submissions_accounted syncSubmission hrun).2.1⟩

/-- Redis is down: the call raises, and leaves a `queued` row that no delivery refers to and no call
is about to push. -/
theorem failed_push_leaves_row : ∃ s,
    exec (Pool.step submissionStep) (submissionStart syncSubmission)
      [(0, .flush 7), (0, .commit), (0, .fail)] = some s ∧
    s.shared.Queued 7 ∧ s.shared.queue = [] ∧ s.proc 0 = .call (.failedAtRedis 7) ∧
    s.proc 1 = .worker .idle :=
  ⟨_, rfl, ⟨_, rfl, rfl⟩, rfl, rfl, rfl⟩

end ReviewSignal
