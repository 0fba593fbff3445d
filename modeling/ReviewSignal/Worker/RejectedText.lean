import ReviewSignal.Foundations.FaultyRelation
import ReviewSignal.Worker.TaxonomyAttempt

/-!
# No text that was refused is kept

Two executions of a taxonomy job whose model replies differ in the text of refused replies only, with
the same number of schema errors in each, cannot be told apart: they send the same requests, end in
the same way and leave the same tables, but for latencies and timestamps (`rejected_text_not_kept`).

**Why two runs.**  That a table does not contain a text is hard to state, as the text may be the name of
something else that is stored.  What can be stated is that the tables do not depend on it.  The number of
schema errors is part of what is kept, for the error that is recorded counts them.

The proof goes through every layer: the retry loop of the provider, the service, the job and the
runner each agree on related answers and tables.  The fates of the runner's points and of the service's
queries are arbitrary, so the result covers executions that are cut short.

What `pydantic` puts in the exception it raises does quote the text, and the provider drops it; that is the
step `refusedProvider` is about.
-/

namespace ReviewSignal

open Faulty TaxonomyGenerationService

/-! ## What is compared

Relations on replies, answers, tables and rows.  Each is equality but for what may differ. -/

/-- Replies that are the same but for a text that was refused. -/
inductive SameReply : OllamaProvider.Reply → OllamaProvider.Reply → Prop where
  | valid (value : GeneratedTaxonomy) : SameReply (.valid value) (.valid value)
  | invalid {exc exc' : ValidationError} (h : exc.errorCount = exc'.errorCount) :
      SameReply (.invalid exc) (.invalid exc')
  | failure (exc : Exn) : SameReply (.failure exc) (.failure exc)

/-- Providers whose replies differ in refused texts only.  Their clocks may differ. -/
structure SameButRefusedText (provider provider' : OllamaProvider) : Prop where
  model : provider.model = provider'.model
  schema : provider.schema = provider'.schema
  reply : ∀ prompt attempt, SameReply (provider.reply prompt attempt) (provider'.reply prompt attempt)

/-- Answers of a provider that differ in latencies only. -/
inductive SameAnswer : ModelAnswer → ModelAnswer → Prop where
  | outcome (value : GeneratedTaxonomy) (latencyMs latencyMs' attempts : ℕ) (fallbackUsed : Bool) :
      SameAnswer (.outcome ⟨value, latencyMs, attempts, fallbackUsed⟩)
        (.outcome ⟨value, latencyMs', attempts, fallbackUsed⟩)
  | rejected (message : String) (attempts latencyMs latencyMs' : ℕ) :
      SameAnswer (.rejected ⟨message, attempts, latencyMs⟩) (.rejected ⟨message, attempts, latencyMs'⟩)
  | fails (exc : Exn) : SameAnswer (.fails exc) (.fails exc)

/-- A model run without its latency. -/
def ModelRun.untimed (run : ModelRun) : ModelRun := { run with latencyMs := 0 }

/-- A job without its timestamps. -/
def Job.untimed (job : Job) : Job := { job with startedAt := none, finishedAt := none }

/-- The same tables, but for latencies. -/
structure SameTables (tables tables' : TaxonomyTables) : Prop where
  reviews : tables.reviews = tables'.reviews
  modelRuns : tables.modelRuns.map (·.untimed) = tables'.modelRuns.map (·.untimed)
  versions : tables.versions = tables'.versions
  nodes : tables.nodes = tables'.nodes

/-- The same jobs, but for timestamps. -/
def SameJobs (jobs jobs' : JobTable) : Prop :=
  ∀ key, (jobs.lookup key).map (·.untimed) = (jobs'.lookup key).map (·.untimed)

/-- The same tables of a worker. -/
structure SameDb (db db' : WorkerDb TaxonomyTables) : Prop where
  jobs : SameJobs db.jobs db'.jobs
  store : SameTables db.store db'.store

/-- The same views of a session. -/
structure SameSession (s s' : TaxonomySession) : Prop where
  committed : SameTables s.committed s'.committed
  working : SameTables s.working s'.working

theorem SameTables.refl (tables : TaxonomyTables) : SameTables tables tables := ⟨rfl, rfl, rfl, rfl⟩

theorem SameDb.refl (db : WorkerDb TaxonomyTables) : SameDb db db := ⟨fun _ => rfl, .refl _⟩

/-! ## The provider

The retry loop goes on after a refused reply whatever its text. -/

section Provider

variable {provider provider' : OllamaProvider}

/-- The loop sends the same requests, and ends alike. -/
theorem SameButRefusedText.attempts (h : SameButRefusedText provider provider') (prompt : String)
    (left : List ℕ) (rejections : List String) :
    (provider.attempts prompt left rejections).1 = (provider'.attempts prompt left rejections).1 ∧
    SameAnswer (provider.attempts prompt left rejections).2
      (provider'.attempts prompt left rejections).2 := by
  induction left generalizing rejections with
  | nil => exact ⟨rfl, .rejected _ _ _ _⟩
  | cons attempt left ih =>
      have hreply := h.reply prompt attempt
      have hrequest : provider.chatRequest (OllamaProvider.attemptPrompt prompt attempt)
          = provider'.chatRequest (OllamaProvider.attemptPrompt prompt attempt) := by
        rw [OllamaProvider.chatRequest, OllamaProvider.chatRequest, h.model, h.schema]
      simp only [OllamaProvider.attempts, hrequest]
      generalize provider.reply prompt attempt = reply, provider'.reply prompt attempt = reply'
        at hreply
      cases hreply with
      | valid value => exact ⟨rfl, .outcome _ _ _ _ _⟩
      | failure exc => exact ⟨rfl, .fails exc⟩
      | @invalid exc exc' hcount =>
          -- only the number of errors goes into what is kept
          have hrejection : OllamaProvider.rejection attempt exc
              = OllamaProvider.rejection attempt exc' := by
            rw [OllamaProvider.rejection, OllamaProvider.rejection, hcount]
          obtain ⟨hsent, hanswer⟩ := ih (rejections ++ [OllamaProvider.rejection attempt exc'])
          simp only [hrejection, hsent]
          exact ⟨trivial, hanswer⟩

theorem SameButRefusedText.generateStructured (h : SameButRefusedText provider provider')
    (prompt : String) : SameAnswer (provider.toProvider.generateStructured prompt)
      (provider'.toProvider.generateStructured prompt) :=
  (h.attempts prompt [1, 2] []).2

end Provider

/-! ## The service

One lemma for each function of the service; a latency is written to the run, and read by nothing. -/

/-- Environments that differ in the provider, whose answers differ in latencies. -/
structure SameEnv (env env' : TaxonomyEnv) : Prop where
  name : env.provider.name = env'.provider.name
  modelName : env.provider.modelName = env'.provider.modelName
  modelVersion : env.provider.modelVersion = env'.provider.modelVersion
  answer : ∀ prompt, SameAnswer (env.provider.generateStructured prompt)
    (env'.provider.generateStructured prompt)
  lower : env.lower = env'.lower
  fate : env.fate = env'.fate

section Service

variable {env env' : TaxonomyEnv} (h : SameEnv env env')
include h

theorem agree_fate (point : TaxonomyPoint) :
    Agree SameSession (· = ·) (.pass (env.fate point)) (.pass (env'.fate point)) :=
  h.fate ▸ agree_pass _

theorem agree_sample (sampleSize : ℤ) :
    Agree SameSession (· = ·) (sample env sampleSize) (sample env' sampleSize) := by
  refine (agree_fate h _).bind fun _ _ _ => ?_
  split_ifs
  · exact agree_raise _
  · exact agree_raise _
  · refine agree_read fun s s' hs => ?_
    rw [hs.working.reviews]

theorem agree_recordRun {run run' : ModelRun} (hrun : run.untimed = run'.untimed) :
    Agree SameSession (· = ·) (recordRun env run) (recordRun env' run') := by
  refine (agree_fate h _).bind fun _ _ _ => ?_
  refine Agree.bind (V := fun runs runs' => runs.length = runs'.length) ?_ fun runs runs' hlength => ?_
  · refine agree_read fun s s' hs => ?_
    simpa using congrArg List.length hs.working.modelRuns
  · refine Agree.bind (V := (· = ·)) (agree_modify rfl fun s s' hs => ?_) fun _ _ _ => agree_pure hlength
    refine ⟨hs.committed, hs.working.reviews, ?_, hs.working.versions, hs.working.nodes⟩
    simp [TaxonomySession.addModelRun, hs.working.modelRuns, hrun]

theorem agree_recordRejection (message : String) (attempts latencyMs latencyMs' inputCount : ℕ)
    (sampleSize : ℤ) :
    Agree SameSession (· = ·)
      (recordRejection env ⟨message, attempts, latencyMs⟩ inputCount sampleSize)
      (recordRejection env' ⟨message, attempts, latencyMs'⟩ inputCount sampleSize) := by
  refine (agree_recordRun h ?_).bind fun _ _ _ => (agree_fate h _).bind fun _ _ _ => ?_
  · simp [ModelRun.untimed, rejectedRun, h.name, h.modelName, h.modelVersion]
  · exact agree_modify rfl fun s s' hs => ⟨hs.working, hs.working⟩

theorem agree_storeNode (point : TaxonomyPoint) (node : TaxonomyNode) :
    Agree SameSession (· = ·) (storeNode env point node) (storeNode env' point node) := by
  refine (agree_fate h _).bind fun _ _ _ => ?_
  refine Agree.bind (V := (· = ·)) (agree_read fun s s' hs => hs.working.nodes) ?_
  rintro nodes _ rfl
  cases refusedNode nodes node with
  | some exc => exact agree_raise exc
  | none =>
      refine Agree.bind (V := (· = ·)) (agree_modify rfl fun s s' hs => ?_) fun _ _ _ => agree_pure rfl
      refine ⟨hs.committed, hs.working.reviews, hs.working.modelRuns, hs.working.versions, ?_⟩
      simp [TaxonomySession.addNode, hs.working.nodes]

theorem agree_storeChildren (versionId order parentId childOrder : ℕ)
    (children : List GeneratedSubcategory) (used : List String) :
    Agree SameSession (· = ·) (storeChildren env versionId order parentId childOrder children used)
      (storeChildren env' versionId order parentId childOrder children used) := by
  induction children generalizing childOrder used with
  | nil => exact agree_pure rfl
  | cons child children ih =>
      rw [storeChildren, storeChildren, h.lower]
      exact (agree_storeNode h _ _).bind fun _ _ _ => ih _ _

theorem agree_storeNodes (versionId order : ℕ) (categories : List GeneratedCategory)
    (used : List String) :
    Agree SameSession (· = ·) (storeNodes env versionId order categories used)
      (storeNodes env' versionId order categories used) := by
  induction categories generalizing order used with
  | nil => exact agree_pure rfl
  | cons category categories ih =>
      rw [storeNodes, storeNodes, h.lower]
      refine (agree_storeNode h _ _).bind ?_
      rintro parentId _ rfl
      refine (agree_storeChildren h _ _ _ _ _ _).bind ?_
      rintro used _ rfl
      exact ih _ _

theorem agree_store (value : GeneratedTaxonomy) (latencyMs latencyMs' attempts : ℕ)
    (fallbackUsed : Bool) (inputCount : ℕ) (sampleSize : ℤ) :
    Agree SameSession (· = ·)
      (store env ⟨value, latencyMs, attempts, fallbackUsed⟩ inputCount sampleSize)
      (store env' ⟨value, latencyMs', attempts, fallbackUsed⟩ inputCount sampleSize) := by
  refine (agree_recordRun h ?_).bind ?_
  · simp [ModelRun.untimed, acceptedRun, h.name, h.modelName, h.modelVersion]
  rintro runId _ rfl
  refine (agree_fate h _).bind fun _ _ _ => ?_
  refine Agree.bind (V := (· = ·)) (agree_read fun s s' hs => hs.working.versions) ?_
  rintro versions _ rfl
  refine (agree_fate h _).bind fun _ _ _ => ?_
  refine Agree.bind (V := (· = ·)) (agree_modify rfl fun s s' hs => ?_) fun _ _ _ => ?_
  · refine ⟨hs.committed, hs.working.reviews, hs.working.modelRuns, ?_, hs.working.nodes⟩
    simp [TaxonomySession.addVersion, hs.working.versions]
  · exact (agree_storeNodes h _ _ _ _).bind fun _ _ _ => agree_pure rfl

/-- The service agrees on answers that differ in latencies. -/
theorem agree_generate (sampleSize : ℤ) :
    Agree SameSession (· = ·) (generate env sampleSize) (generate env' sampleSize) := by
  refine (agree_sample h sampleSize).bind ?_
  rintro reviews _ rfl
  split_ifs with hempty
  · exact agree_raise _
  · refine (agree_fate h _).bind fun _ _ _ => ?_
    have hanswer := h.answer (taxonomyGenerateV1.render (formatReviews reviews))
    generalize env.provider.generateStructured _ = answer, env'.provider.generateStructured _ = answer'
      at hanswer
    cases hanswer with
    | outcome value latencyMs latencyMs' attempts fallbackUsed => exact agree_store h _ _ _ _ _ _ _
    | fails exc => exact agree_raise exc
    | rejected message attempts latencyMs latencyMs' =>
        exact (agree_recordRejection h _ _ _ _ _ _).bind fun _ _ _ => agree_raise _

/-- So does the job. -/
theorem agree_taxonomySession (payload : Json) :
    Agree SameSession (· = ·) (Jobs.taxonomySession env payload)
      (Jobs.taxonomySession env' payload) := by
  rw [Jobs.taxonomySession, Jobs.taxonomySession]
  cases Jobs.sampleSize payload with
  | error exc => exact agree_raise exc
  | ok n =>
      refine Agree.tryCatch ?_ fun exc => ?_
      · refine (agree_generate h n).bind fun _ _ _ => (agree_fate h _).bind fun _ _ _ => ?_
        exact agree_modify rfl fun s s' hs => ⟨hs.working, hs.working⟩
      · split_ifs <;> exact agree_raise _

theorem agree_taxonomyGenerate (payload : Json) (key : JobId) :
    Agree SameTables (· = ·) (Jobs.taxonomyGenerate env payload key)
      (Jobs.taxonomyGenerate env' payload key) := by
  intro tables tables' htables
  obtain ⟨hended, hs⟩ := agree_taxonomySession h payload ⟨tables, tables⟩ ⟨tables', tables'⟩
    ⟨htables, htables⟩
  exact ⟨hended, hs.committed⟩

end Service

/-! ## The runner

What `run_job` reads of a row and what it assigns to it are no timestamps. -/

section Runner

variable {jobs jobs' : JobTable} {job job' : Job} {now now' : Instant}

theorem SameJobs.insert (h : SameJobs jobs jobs') (key : JobId) (hjob : job.untimed = job'.untimed) :
    SameJobs (jobs.insert key job) (jobs'.insert key job') := by
  intro other
  by_cases hother : other = key
  · rw [hother, Finmap.lookup_insert, Finmap.lookup_insert]
    exact congrArg some hjob
  · rw [Finmap.lookup_insert_of_ne _ hother, Finmap.lookup_insert_of_ne _ hother]
    exact h other

/-- The rows of one job, if it has one. -/
theorem SameJobs.lookup (h : SameJobs jobs jobs') (key : JobId) :
    (jobs.lookup key = none ∧ jobs'.lookup key = none) ∨
    ∃ job job', jobs.lookup key = some job ∧ jobs'.lookup key = some job' ∧
      job.untimed = job'.untimed := by
  have hkey := h key
  cases hjob : jobs.lookup key with
  | none =>
      rw [hjob] at hkey
      exact .inl ⟨rfl, Option.map_eq_none_iff.mp hkey.symm⟩
  | some job =>
      rw [hjob] at hkey
      obtain ⟨job', hjob', huntimed⟩ := Option.map_eq_some_iff.mp hkey.symm
      exact .inr ⟨job, job', rfl, hjob', huntimed.symm⟩

variable (now now') in
/-- What `run_job` reads of a row and what it assigns to it are no timestamps. -/
theorem running_untimed (h : job.untimed = job'.untimed) :
    Runner.claim (Runner.running now job) = Runner.claim (Runner.running now' job') ∧
    (Runner.running now job).untimed = (Runner.running now' job').untimed := by
  simp only [Job.untimed, Job.mk.injEq] at h
  simp [Runner.claim, Runner.running, Job.untimed, h]

theorem outcomeRow_untimed (h : job.untimed = job'.untimed) (held : Claim)
    (outcome : HandlerOutcome) :
    (Runner.outcomeRow now held outcome job).untimed
      = (Runner.outcomeRow now' held outcome job').untimed := by
  simp only [Job.untimed, Job.mk.injEq] at h
  cases outcome <;>
    simp [Runner.outcomeRow, Runner.recordSuccess, Runner.recordFailure, Job.untimed, h]

theorem SameJobs.begin (h : SameJobs jobs jobs') (key : JobId) :
    (Runner.begin now key jobs).1 = (Runner.begin now' key jobs').1 ∧
    SameJobs (Runner.begin now key jobs).2 (Runner.begin now' key jobs').2 := by
  rcases h.lookup key with ⟨hnone, hnone'⟩ | ⟨job, job', hjob, hjob', huntimed⟩
  · simp only [Runner.begin, hnone, hnone']
    exact ⟨trivial, h⟩
  · rw [Runner.begin_of_lookup hjob, Runner.begin_of_lookup hjob']
    obtain ⟨hclaim, hrow⟩ := running_untimed now now' huntimed
    exact ⟨congrArg some hclaim, h.insert key hrow⟩

theorem SameJobs.record (h : SameJobs jobs jobs') (key : JobId) (held : Claim)
    (outcome : HandlerOutcome) :
    (Runner.record now key held outcome jobs).1 = (Runner.record now' key held outcome jobs').1 ∧
    SameJobs (Runner.record now key held outcome jobs).2
      (Runner.record now' key held outcome jobs').2 := by
  constructor
  · rw [Runner.record, Runner.record]
    cases Runner.resolve held.jobType outcome <;> rfl
  · rw [Runner.record_table, Runner.record_table, Runner.update, Runner.update]
    rcases h.lookup key with ⟨hnone, hnone'⟩ | ⟨job, job', hjob, hjob', huntimed⟩
    · rw [hnone, hnone']
      exact h
    · rw [hjob, hjob']
      exact h.insert key (outcomeRow_untimed huntimed held _)

end Runner

section Execution

variable {runner runner' : RunnerEnv} (hfate : runner.fate = runner'.fate)
include hfate

theorem agree_point (point : RunnerPoint) :
    Agree SameDb (· = ·) (.pass (runner.fate point)) (.pass (runner'.fate point)) :=
  hfate ▸ agree_pass _

theorem agree_mark (key : JobId) :
    Agree SameDb (· = ·) (Worker.mark runner key) (Worker.mark runner' key) := by
  refine (agree_point hfate _).bind fun _ _ _ => ?_
  refine Agree.bind (V := fun begun begun' => begun.1 = begun'.1 ∧ SameJobs begun.2 begun'.2)
    (agree_read fun db db' hdb => hdb.jobs.begin key) ?_
  rintro ⟨held, jobs⟩ ⟨held', jobs'⟩ ⟨hheld, hjobs⟩
  refine (agree_point hfate _).bind fun _ _ _ => ?_
  refine Agree.bind (V := (· = ·)) (agree_modify rfl fun db db' hdb => ?_) fun _ _ _ =>
    agree_pure hheld
  exact ⟨hjobs, hdb.store⟩

theorem agree_record (key : JobId) (held : Claim) (outcome : HandlerOutcome) :
    Agree SameDb (· = ·) (Worker.record runner key held outcome)
      (Worker.record runner' key held outcome) := by
  refine (agree_point hfate _).bind fun _ _ _ => ?_
  refine Agree.bind (V := fun ended ended' => ended.1 = ended'.1 ∧ SameJobs ended.2 ended'.2)
    (agree_read fun db db' hdb => hdb.jobs.record key held outcome) ?_
  rintro ⟨raised, jobs⟩ ⟨raised', jobs'⟩ ⟨hraised, hjobs⟩
  obtain rfl : raised = raised' := hraised
  refine (agree_point hfate _).bind fun _ _ _ => ?_
  refine Agree.bind (V := (· = ·)) (agree_modify rfl fun db db' hdb => ⟨hjobs, hdb.store⟩) ?_
  refine fun _ _ _ => (agree_point hfate _).bind fun _ _ _ => ?_
  cases raised with
  | none => exact agree_pure rfl
  | some exc => exact agree_raise exc

/-- Handlers that agree make executions that do. -/
theorem agree_runJob {handler handler' : Handler TaxonomyTables}
    (hhandler : ∀ payload key, Agree SameTables (· = ·) (handler payload key) (handler' payload key))
    (key : JobId) :
    Agree SameDb (· = ·) (Worker.runJob runner handler key) (Worker.runJob runner' handler' key) := by
  refine (agree_mark hfate key).bind ?_
  rintro held _ rfl
  cases held with
  | none => exact agree_pure rfl
  | some held =>
      refine Agree.bind (V := (· = ·)) ?_ ?_
      · rw [Worker.handle, Worker.handle]
        split_ifs
        · refine Agree.bind ((hhandler held.payload key).zoom (fun db db' hdb => hdb.store)
            fun db db' store store' hdb hstore => ⟨hdb.jobs, hstore⟩).attempt ?_
          rintro _ _ (hvalue | exc)
          · exact agree_pure rfl
          · exact agree_pure rfl
        · exact agree_pure rfl
      · rintro outcome _ rfl
        exact agree_record hfate key held outcome

end Execution

/-- **No refused text is kept.**  Executions on the same tables, that differ in the texts of refused
replies and in their clocks, send the same requests, end in the same way and leave the same tables but
for latencies and timestamps. -/
theorem rejected_text_not_kept {provider provider' : OllamaProvider}
    (h : SameButRefusedText provider provider') {runner runner' : RunnerEnv}
    (hfate : runner.fate = runner'.fate) (lower : String → String) (fate : TaxonomyPoint → Fate)
    (key : JobId) (db : WorkerDb TaxonomyTables) :
    (∀ prompt, (provider.generateStructured prompt).1 = (provider'.generateStructured prompt).1) ∧
    (Worker.runJob runner (Jobs.taxonomyGenerate ⟨provider.toProvider, lower, fate⟩) key db).1
      = (Worker.runJob runner' (Jobs.taxonomyGenerate ⟨provider'.toProvider, lower, fate⟩) key db).1 ∧
    SameDb
      (Worker.runJob runner (Jobs.taxonomyGenerate ⟨provider.toProvider, lower, fate⟩) key db).2
      (Worker.runJob runner' (Jobs.taxonomyGenerate ⟨provider'.toProvider, lower, fate⟩) key db).2 := by
  have henv : SameEnv ⟨provider.toProvider, lower, fate⟩ ⟨provider'.toProvider, lower, fate⟩ :=
    ⟨rfl, h.model, rfl, h.generateStructured, rfl, rfl⟩
  obtain ⟨hended, hdb⟩ := agree_runJob hfate (agree_taxonomyGenerate henv) key db db (.refl db)
  exact ⟨fun prompt => (h.attempts prompt [1, 2] []).1, hended.eq, hdb⟩

/-- A model that answers every prompt with one text, which the schema refuses; the exception quotes
it. -/
def refusedProvider (text : String) : OllamaProvider where
  model := "fake-model"
  schema := .obj []
  post _ _ := .response 200 "" (.ok (.obj [("message", .obj [("content", .str text)])]))
  validate _ := .error ⟨2, "2 validation errors, input_value=" ++ text⟩
  statusMessage _ := ""
  elapsedMs attempt := attempt

/-- Two texts leave the same row of the job. -/
theorem rejected_text_not_kept_of_two_texts :
    let db : WorkerDb TaxonomyTables :=
      ⟨(∅ : JobTable).insert 7 (enqueuedJob "taxonomy_generate" (.obj []) 3), reviewedTables⟩
    SameDb (executeTaxonomyJob (refusedProvider "<think>") id 1 2 7 db).2
      (executeTaxonomyJob (refusedProvider "Sure! Here it is") id 3 4 7 db).2 := by
  intro db
  have hsame : SameButRefusedText (refusedProvider "<think>") (refusedProvider "Sure! Here it is") :=
    ⟨rfl, rfl, fun _ _ => .invalid rfl⟩
  exact (@rejected_text_not_kept _ _ hsame (.steady 1 2) (.steady 3 4) rfl id (fun _ => .proceeds) 7
    db).2.2

end ReviewSignal
