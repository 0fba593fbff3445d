import ReviewSignal.Worker.Runner

/-!
# Executions that are cut short, and the ones that follow

`run_job` once more, statement by statement, as a program that may raise in a process that may die,
around a handler that is such a program itself.  A handler works on tables of its own.

* `runJob` — one execution.  `runJob_spec` says what it comes to in terms of how far it got
  (`Progress`): the first transaction is not committed, it is and the second one is not, or both are;
* `progress` — how far it gets, computed from the fates of its points and the end of its handler alone.
  Results can therefore put their conditions on the environment, where `Progress` would be one on the run;
* `redeliveries` — the executions RQ makes of a job: the first one, and another one after each that
  raised or died while the `Retry` has retries left.  `deliver_spec` is one of them.

A transaction that is not committed leaves nothing, so a failed query and a failed commit are places
where the program raises, and its tables are the committed ones throughout.

What the rest of the system does between two executions is a function on the tables of the handler
(`ChainEnv.meanwhile`).  The row of the job is not among them: two executions of one job at a time are the
subject of `ConcurrentExecutions`.
-/

namespace ReviewSignal

/-- The `jobs` table and the tables of the handler. -/
structure WorkerDb (σ : Type) where
  jobs : JobTable
  store : σ

/-- A handler of `HANDLERS`, on its own tables. -/
abbrev Handler (σ : Type) := Json → JobId → Faulty Exn σ Unit

/-- The places of `run_job` outside the handler where it can raise, or its process die. -/
inductive RunnerPoint where
  | load
  | markCommit
  | reload
  | recordCommit
  /-- After the last commit, and before RQ has noted how the execution ended. -/
  | leave
  deriving DecidableEq, Repr

/-- What one execution depends on besides the tables and the handler. -/
structure RunnerEnv where
  startedAt : Instant
  finishedAt : Instant
  fate : RunnerPoint → Fate

/-- Nothing goes wrong outside the handler. -/
def RunnerEnv.steady (startedAt finishedAt : Instant) : RunnerEnv :=
  ⟨startedAt, finishedAt, fun _ => .proceeds⟩

/-- The same environment, but for one point. -/
def RunnerEnv.withFate (env : RunnerEnv) (point : RunnerPoint) (fate : Fate) : RunnerEnv :=
  { env with fate := Function.update env.fate point fate }

/-- The two `except` clauses of `run_job`. -/
def HandlerOutcome.ofExn (exc : Exn) : HandlerOutcome :=
  if exc.typeName = "PermanentJobError" then .permanent exc else .raises exc

namespace Worker

variable {σ : Type}

/-- The first transaction. -/
def mark (env : RunnerEnv) (key : JobId) : Faulty Exn (WorkerDb σ) (Option Claim) := do
  .pass (env.fate .load)
  let (held, jobs) ← .read fun db => Runner.begin env.startedAt key db.jobs
  .pass (env.fate .markCommit)
  .modify fun db => { db with jobs }
  pure held

/-- The `try` block: the handler, if the job's type has one. -/
def handle (handler : Handler σ) (key : JobId) (held : Claim) :
    Faulty Exn (WorkerDb σ) HandlerOutcome :=
  if held.jobType ∈ handlers then do
    let handled ← .attempt (.zoom (·.store) (fun store db => { db with store })
      (handler held.payload key))
    match handled with
    | .ok () => pure .returns
    | .error exc => pure (.ofExn exc)
  else pure (Runner.resolve held.jobType .returns)

/-- The second transaction, and the `raise` that follows `_record_failure`. -/
def record (env : RunnerEnv) (key : JobId) (held : Claim) (outcome : HandlerOutcome) :
    Faulty Exn (WorkerDb σ) Unit := do
  .pass (env.fate .reload)
  let (raised, jobs) ← .read fun db => Runner.record env.finishedAt key held outcome db.jobs
  .pass (env.fate .recordCommit)
  .modify fun db => { db with jobs }
  .pass (env.fate .leave)
  match raised with
  | none => pure ()
  | some exc => .raise exc

/-- The `try` statement with its clauses. -/
def settle (env : RunnerEnv) (handler : Handler σ) (key : JobId) (held : Claim) :
    Faulty Exn (WorkerDb σ) Unit := do
  let outcome ← handle handler key held
  record env key held outcome

/-- `run_job` -/
def runJob (env : RunnerEnv) (handler : Handler σ) (key : JobId) :
    Faulty Exn (WorkerDb σ) Unit := do
  match ← mark env key with
  | none => pure ()
  | some held => settle env handler key held

end Worker

/-! ## How far an execution gets

One lemma for each of `mark`, `handle`, `record` and `settle`, and from these the execution.  The row it
leaves is a function of its progress. -/

/-- What an execution does to the row of its job. -/
inductive Progress where
  /-- The first transaction was not committed. -/
  | unmarked
  /-- The row is marked as running, and no outcome is recorded. -/
  | unrecorded
  | recorded (outcome : HandlerOutcome)
  deriving DecidableEq, Repr

/-- The row a progress leaves. -/
def Progress.row (env : RunnerEnv) (job : Job) : Progress → Job
  | .unmarked => job
  | .unrecorded => Runner.running env.startedAt job
  | .recorded outcome => Runner.outcomeRow env.finishedAt
      (Runner.claim (Runner.running env.startedAt job)) outcome (Runner.running env.startedAt job)

/-- What an execution keeps of the row, and how it counts. -/
theorem row_kept (env : RunnerEnv) (job : Job) (progress : Progress) :
    (progress.row env job).jobType = job.jobType ∧
    (progress.row env job).maxAttempts = job.maxAttempts ∧
    (progress.row env job).attemptCount
      = job.attemptCount + (if progress = .unmarked then 0 else 1) := by
  cases progress with
  | unmarked => exact ⟨rfl, rfl, rfl⟩
  | unrecorded => exact ⟨rfl, rfl, rfl⟩
  | recorded o => cases o <;> exact ⟨rfl, rfl, rfl⟩

/-- The runner never writes the payload. -/
theorem payload_row (env : RunnerEnv) (job : Job) (progress : Progress) :
    (progress.row env job).payload = job.payload := by
  cases progress with
  | unmarked => rfl
  | unrecorded => rfl
  | recorded o => cases o <;> rfl

/-- The end of a handler, as the runner sees it. -/
def Ended.outcome : Ended Exn Unit → Option HandlerOutcome
  | .returned () => some .returns
  | .raised exc => some (.ofExn exc)
  | .died => none

/-- The outcome of the `try` block, given how the handler ends if it is run. -/
def handledOutcome (jobType : String) (handled : Ended Exn Unit) : Option HandlerOutcome :=
  if jobType ∈ handlers then handled.outcome else some (Runner.resolve jobType .returns)

namespace RunnerEnv

/-- The first transaction commits. -/
def Marks (env : RunnerEnv) : Prop := env.fate .load = .proceeds ∧ env.fate .markCommit = .proceeds

/-- The second transaction commits, if it is reached. -/
def Records (env : RunnerEnv) : Prop :=
  env.fate .reload = .proceeds ∧ env.fate .recordCommit = .proceeds

instance (env : RunnerEnv) : Decidable env.Marks := inferInstanceAs (Decidable (_ ∧ _))

instance (env : RunnerEnv) : Decidable env.Records := inferInstanceAs (Decidable (_ ∧ _))

/-- The progress of an execution, from the environment and the handler's end alone. -/
def progress (env : RunnerEnv) (jobType : String) (handled : Ended Exn Unit) : Progress :=
  if env.Marks then
    match handledOutcome jobType handled with
    | none => .unrecorded
    | some outcome => if env.Records then .recorded outcome else .unrecorded
  else .unmarked

end RunnerEnv

namespace Worker

variable {σ : Type} {env : RunnerEnv} {handler : Handler σ} {key : JobId} {db : WorkerDb σ} {job : Job}

theorem mark_run (hmarks : env.Marks) (h : db.jobs.lookup key = some job) :
    mark env key db = (.returned (some (Runner.claim (Runner.running env.startedAt job))),
      { db with jobs := db.jobs.insert key (Runner.running env.startedAt job) }) := by
  simp [mark, hmarks.1, hmarks.2, Runner.begin_of_lookup h, -bind_pure_comp]

variable (key db) in
theorem mark_stopped (hmarks : ¬ env.Marks) :
    ∃ ended, (∀ held, ended ≠ .returned held) ∧ mark env key db = (ended, db) := by
  by_cases hload : env.fate .load = .proceeds
  · have hcommit : env.fate .markCommit ≠ .proceeds := fun h => hmarks ⟨hload, h⟩
    simp only [mark, hload, Faulty.pass_proceeds, Faulty.pure_bind_run, Faulty.read_bind_run]
    exact Faulty.exists_pass_bind hcommit _ db
  · exact Faulty.exists_pass_bind hload _ db

/-- The tables after the second transaction. -/
def recorded (env : RunnerEnv) (key : JobId) (held : Claim) (outcome : HandlerOutcome)
    (db : WorkerDb σ) : WorkerDb σ :=
  { db with jobs := (Runner.record env.finishedAt key held outcome db.jobs).2 }

variable (key db) in
theorem record_run (held : Claim) (outcome : HandlerOutcome) (hrecords : env.Records) :
    ∃ ended, record env key held outcome db = (ended, recorded env key held outcome db) ∧
      (ended = .returned () ↔
        (Runner.resolve held.jobType outcome).reraised = false ∧ env.fate .leave = .proceeds) := by
  have hraised : (Runner.record env.finishedAt key held outcome db.jobs).1.isSome
      = (Runner.resolve held.jobType outcome).reraised := Runner.isSome_record
  rw [← hraised]
  simp only [record, hrecords.1, hrecords.2, Faulty.pass_proceeds, Faulty.pure_bind_run,
    Faulty.read_bind_run, Faulty.modify_bind_run]
  by_cases hleave : env.fate .leave = .proceeds
  · simp only [hleave, Faulty.pass_proceeds, Faulty.pure_bind_run]
    cases (Runner.record env.finishedAt key held outcome db.jobs).1 with
    | none => exact ⟨.returned (), rfl, by simp⟩
    | some exc => exact ⟨.raised exc, rfl, by simp⟩
  · obtain ⟨ended, hended, hrun⟩ := Faulty.exists_pass_bind hleave
      (fun _ => match (Runner.record env.finishedAt key held outcome db.jobs).1 with
        | none => pure ()
        | some exc => .raise exc) (recorded env key held outcome db)
    exact ⟨ended, hrun, iff_of_false (hended ()) fun h => hleave h.2⟩

variable (key db) in
theorem record_stopped (held : Claim) (outcome : HandlerOutcome) (hrecords : ¬ env.Records) :
    ∃ ended, (∀ u, ended ≠ .returned u) ∧ record env key held outcome db = (ended, db) := by
  by_cases hreload : env.fate .reload = .proceeds
  · have hcommit : env.fate .recordCommit ≠ .proceeds := fun h => hrecords ⟨hreload, h⟩
    simp only [record, hreload, Faulty.pass_proceeds, Faulty.pure_bind_run, Faulty.read_bind_run]
    exact Faulty.exists_pass_bind hcommit _ db
  · exact Faulty.exists_pass_bind hreload _ db

/-- The tables after the `try` block. -/
def handledDb (handler : Handler σ) (key : JobId) (held : Claim) (db : WorkerDb σ) : WorkerDb σ where
  jobs := db.jobs
  store := if held.jobType ∈ handlers then (handler held.payload key db.store).2 else db.store

theorem handle_run {held : Claim} {outcome : HandlerOutcome}
    (h : handledOutcome held.jobType (handler held.payload key db.store).1 = some outcome) :
    handle handler key held db = (.returned outcome, handledDb handler key held db) := by
  rw [handledOutcome] at h
  rw [handle, handledDb]
  split_ifs at h ⊢ with htype
  · rcases hrun : handler held.payload key db.store with ⟨⟨⟩ | exc | _, store⟩
    all_goals
      rw [hrun] at h
      cases h
    · exact Faulty.bind_returned (Faulty.attempt_returned (Faulty.zoom_run hrun))
    · exact Faulty.bind_returned (Faulty.attempt_raised (Faulty.zoom_run hrun))
  · rw [← Option.some.inj h]
    rfl

theorem handle_died {held : Claim}
    (h : handledOutcome held.jobType (handler held.payload key db.store).1 = none) :
    handle handler key held db = (.died, handledDb handler key held db) := by
  rw [handledOutcome] at h
  rw [handle, handledDb]
  split_ifs at h ⊢ with htype
  rcases hrun : handler held.payload key db.store with ⟨⟨⟩ | exc | _, store⟩
  all_goals
    rw [hrun] at h
    cases h
  exact Faulty.bind_died (Faulty.attempt_died (Faulty.zoom_run hrun))

/-- The outcome of the `try` block is the one `_resolve` would give. -/
theorem resolve_handledOutcome {jobType : String} {handled : Ended Exn Unit}
    {outcome : HandlerOutcome} (h : handledOutcome jobType handled = some outcome) :
    Runner.resolve jobType outcome = outcome := by
  rw [handledOutcome] at h
  split_ifs at h with htype
  · rw [Runner.resolve, if_pos htype]
  · rw [← Option.some.inj h, Runner.resolve, Runner.resolve, if_neg htype, if_neg htype]

/-- The row the `try` statement leaves. -/
def settledRow (env : RunnerEnv) (held : Claim) (row : Job) : Option HandlerOutcome → Job
  | some outcome => if env.Records then Runner.outcomeRow env.finishedAt held outcome row else row
  | none => row

variable (env handler) in
theorem settle_spec (held : Claim) {row : Job} {outcome : Option HandlerOutcome}
    (h : db.jobs.lookup key = some row)
    (houtcome : handledOutcome held.jobType (handler held.payload key db.store).1 = outcome) :
    (settle env handler key held db).2.jobs.lookup key = some (settledRow env held row outcome) ∧
    (settle env handler key held db).2.store = (handledDb handler key held db).store ∧
    ((settle env handler key held db).1 = .returned () ↔
      ∃ o, outcome = some o ∧ env.Records ∧ o.reraised = false ∧ env.fate .leave = .proceeds) := by
  have hjobs : (handledDb handler key held db).jobs.lookup key = some row := h
  cases outcome with
  | none =>
      have hrun : settle env handler key held db = (.died, handledDb handler key held db) :=
        Faulty.bind_died (handle_died houtcome)
      rw [hrun]
      exact ⟨hjobs, rfl, by simp⟩
  | some o =>
      have hrun : settle env handler key held db
          = record env key held o (handledDb handler key held db) :=
        Faulty.bind_returned (handle_run houtcome)
      rw [hrun]
      by_cases hrecords : env.Records
      · obtain ⟨ended, hrecord, hended⟩ := record_run key (handledDb handler key held db) held o hrecords
        rw [resolve_handledOutcome houtcome] at hended
        rw [hrecord]
        refine ⟨?_, rfl, ?_⟩
        · show (Runner.record _ key _ _ _).2.lookup key = _
          rw [Runner.lookup_record_self, hjobs, resolve_handledOutcome houtcome, settledRow,
            if_pos hrecords]
          rfl
        · rw [hended]
          simp [hrecords]
      · obtain ⟨ended, hended, hrecord⟩ := record_stopped key (handledDb handler key held db) held o
          hrecords
        rw [hrecord]
        refine ⟨?_, rfl, iff_of_false (hended ()) ?_⟩
        · rw [settledRow, if_neg hrecords]
          exact hjobs
        · rintro ⟨-, -, h, -⟩
          exact hrecords h

variable (env handler) in
/-- **One execution** of a recorded job: the row it leaves, the store it leaves, and whether RQ sees
it return. -/
theorem runJob_spec (h : db.jobs.lookup key = some job) :
    let progress := env.progress job.jobType (handler job.payload key db.store).1
    (runJob env handler key db).2.jobs.lookup key = some (progress.row env job) ∧
    (runJob env handler key db).2.store = (if env.Marks ∧ job.jobType ∈ handlers
      then (handler job.payload key db.store).2 else db.store) ∧
    ((runJob env handler key db).1 = .returned () ↔
      (∃ o, progress = .recorded o ∧ o.reraised = false) ∧ env.fate .leave = .proceeds) := by
  intro progress
  by_cases hmarks : env.Marks
  · have hrun : runJob env handler key db = settle env handler key
        (Runner.claim (Runner.running env.startedAt job))
        { db with jobs := db.jobs.insert key (Runner.running env.startedAt job) } :=
      Faulty.bind_returned (mark_run hmarks h)
    have hmarked : ({ db with jobs := db.jobs.insert key (Runner.running env.startedAt job) } :
        WorkerDb σ).jobs.lookup key = some (Runner.running env.startedAt job) :=
      Finmap.lookup_insert _
    obtain ⟨hrow, hstore, hended⟩ := settle_spec env handler
      (Runner.claim (Runner.running env.startedAt job)) hmarked
      (show handledOutcome _ _ = handledOutcome job.jobType (handler job.payload key db.store).1
        from rfl)
    rw [hrun]
    refine ⟨hrow.trans ?_, hstore.trans ?_, hended.trans ?_⟩
    · simp only [progress, RunnerEnv.progress, if_pos hmarks]
      cases handledOutcome job.jobType (handler job.payload key db.store).1 with
      | none => rfl
      | some o => by_cases hrecords : env.Records <;> simp [settledRow, Progress.row, hrecords]
    · by_cases htype : job.jobType ∈ handlers
      · rw [if_pos ⟨hmarks, htype⟩]
        exact if_pos htype
      · rw [if_neg fun hboth => htype hboth.2]
        exact if_neg htype
    · simp only [progress, RunnerEnv.progress, if_pos hmarks]
      cases handledOutcome job.jobType (handler job.payload key db.store).1 with
      | none => simp
      | some o => by_cases hrecords : env.Records <;> simp [hrecords]
  · have hprogress : progress = .unmarked := by simp [progress, RunnerEnv.progress, hmarks]
    obtain ⟨ended, hended, hmark⟩ := mark_stopped key db hmarks
    obtain ⟨ended', hended', hrun⟩ := Faulty.bind_stopped hmark hended fun held =>
      match held with
      | none => pure ()
      | some held => settle env handler key held
    have hrun : runJob env handler key db = (ended', db) := hrun
    rw [hrun, hprogress, if_neg fun hboth => hmarks hboth.1]
    exact ⟨h, rfl, iff_of_false (hended' ()) (by simp)⟩

end Worker

/-! ## The executions of a job

The chain is a recursion on the retries left.  What is proved of it is what its users need: how long it is,
that only its last execution returned, and what every execution of one type and payload has in common. -/

/-- What the executions of a job depend on, the `n`-th one at `n`.  `meanwhile` is what the rest of
the system does to the handler's tables before an execution. -/
structure ChainEnv (σ : Type) where
  runner : ℕ → RunnerEnv
  handler : ℕ → Handler σ
  meanwhile : ℕ → σ → σ

/-- One execution RQ made of a job: which one it is, what it met, how the handler ends there, how the
execution ended and what it left. -/
structure Delivery (σ : Type) where
  number : ℕ
  runner : RunnerEnv
  before : WorkerDb σ
  handled : Ended Exn Unit
  ended : Ended Exn Unit
  after : WorkerDb σ

/-- How far the execution got with the row of its job. -/
def Delivery.progress {σ : Type} (jobType : String) (delivery : Delivery σ) : Progress :=
  delivery.runner.progress jobType delivery.handled

namespace ChainEnv

variable {σ : Type} (chain : ChainEnv σ) (key : JobId)

/-- The tables an execution meets. -/
def met (n : ℕ) (db : WorkerDb σ) : WorkerDb σ := { db with store := chain.meanwhile n db.store }

/-- The `n`-th execution. -/
def deliver (n : ℕ) (db : WorkerDb σ) : Delivery σ where
  number := n
  runner := chain.runner n
  before := chain.met n db
  handled := match db.jobs.lookup key with
    | none => .returned ()
    | some job => (chain.handler n job.payload key (chain.met n db).store).1
  ended := (Worker.runJob (chain.runner n) (chain.handler n) key (chain.met n db)).1
  after := (Worker.runJob (chain.runner n) (chain.handler n) key (chain.met n db)).2

/-- The executions RQ makes with some retries left, the `n`-th one first: an execution that raised or
died uses one up. -/
def redeliveries : ℕ → ℕ → WorkerDb σ → List (Delivery σ)
  | 0, n, db => [chain.deliver key n db]
  | retriesLeft + 1, n, db =>
      let delivery := chain.deliver key n db
      delivery ::
        if delivery.ended = .returned () then [] else redeliveries retriesLeft (n + 1) delivery.after

/-- The executions of a job from its `enqueue` on.  They count from one. -/
def deliveries (jobType : String) (payload : Json) (maxAttempts : ℕ) (db : WorkerDb σ) :
    List (Delivery σ) :=
  chain.redeliveries key ((retryPolicy maxAttempts).elim 0 (·.max)) 1
    { db with jobs := db.jobs.insert key (enqueuedJob jobType payload maxAttempts) }

variable {key} {db : WorkerDb σ} {job : Job}

theorem handled_deliver (n : ℕ) (h : db.jobs.lookup key = some job) :
    (chain.deliver key n db).handled
      = (chain.handler n job.payload key (chain.deliver key n db).before.store).1 := by
  simp only [deliver, h]

/-- **One execution of the chain.** -/
theorem deliver_spec (n : ℕ) (h : db.jobs.lookup key = some job) :
    let delivery := chain.deliver key n db
    delivery.after.jobs.lookup key
      = some ((delivery.progress job.jobType).row delivery.runner job) ∧
    delivery.after.store = (if delivery.runner.Marks ∧ job.jobType ∈ handlers
      then (chain.handler n job.payload key delivery.before.store).2 else delivery.before.store) ∧
    (delivery.ended = .returned () ↔
      (∃ o, delivery.progress job.jobType = .recorded o ∧ o.reraised = false) ∧
        delivery.runner.fate .leave = .proceeds) := by
  have hmet : (chain.met n db).jobs.lookup key = some job := h
  intro delivery
  simp only [delivery, Delivery.progress, chain.handled_deliver n h]
  exact Worker.runJob_spec (chain.runner n) (chain.handler n) hmet

variable (key)

/-- RQ makes no more executions than it has retries left, and the first one. -/
theorem length_redeliveries_le (retriesLeft n : ℕ) (db : WorkerDb σ) :
    (chain.redeliveries key retriesLeft n db).length ≤ retriesLeft + 1 := by
  induction retriesLeft generalizing n db with
  | zero => exact le_rfl
  | succ retriesLeft ih =>
      rw [redeliveries]
      split_ifs
      · exact Nat.succ_le_succ (Nat.zero_le _)
      · exact Nat.succ_le_succ (ih _ _)

theorem redeliveries_ne_nil (retriesLeft n : ℕ) (db : WorkerDb σ) :
    chain.redeliveries key retriesLeft n db ≠ [] := by
  cases retriesLeft <;> exact List.cons_ne_nil _ _

/-- RQ makes another execution only after one that did not return. -/
theorem redeliveries_pairwise (retriesLeft n : ℕ) (db : WorkerDb σ) :
    (chain.redeliveries key retriesLeft n db).Pairwise fun delivery _ =>
      delivery.ended ≠ .returned () := by
  induction retriesLeft generalizing n db with
  | zero => exact List.pairwise_singleton _ _
  | succ retriesLeft ih =>
      rw [redeliveries]
      split_ifs with hended
      · exact List.pairwise_singleton _ _
      · exact List.pairwise_cons.mpr ⟨fun _ _ => hended, ih _ _⟩

variable {key}

/-- What holds of every execution of a job of this type and payload holds of all the executions RQ
makes. -/
theorem forall_redeliveries {jobType : String} {payload : Json} {P : Delivery σ → Prop}
    (hdeliver : ∀ n (db : WorkerDb σ) job, db.jobs.lookup key = some job → job.jobType = jobType →
      job.payload = payload → P (chain.deliver key n db))
    (retriesLeft n : ℕ) (h : db.jobs.lookup key = some job) (htype : job.jobType = jobType)
    (hpayload : job.payload = payload) :
    ∀ delivery ∈ chain.redeliveries key retriesLeft n db, P delivery := by
  induction retriesLeft generalizing n db job with
  | zero => exact List.forall_mem_singleton.mpr (hdeliver n db job h htype hpayload)
  | succ retriesLeft ih =>
      have hfirst := hdeliver n db job h htype hpayload
      rw [redeliveries]
      split_ifs with hended
      · exact List.forall_mem_singleton.mpr hfirst
      · obtain ⟨hrow, -, -⟩ := chain.deliver_spec n h
        set delivery := chain.deliver key n db
        obtain ⟨htype', -, -⟩ := row_kept delivery.runner job (delivery.progress job.jobType)
        have hpayload' := payload_row delivery.runner job (delivery.progress job.jobType)
        exact List.forall_mem_cons.mpr
          ⟨hfirst, ih _ hrow (htype'.trans htype) (hpayload'.trans hpayload)⟩

end ChainEnv

end ReviewSignal
