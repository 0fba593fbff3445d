import ReviewSignal.Services.TaxonomyRows
import ReviewSignal.Worker.Jobs.Taxonomy

/-!
# What a generation comes to

`TaxonomyGenerationService.generate` and the job around it, where nothing fails but what the provider
and PostgreSQL refuse: one lemma for each way a generation can end, with the tables it leaves.

* The sample size is no LIMIT, negative or from `2^63` on: a `DataError`, and nothing is written
  (`taxonomyGenerate_invalidLimit`).
* No review has text: a permanent error, and nothing is asked (`taxonomyGenerate_empty`).
* The provider fails: its error, and nothing is written.
* Its answer does not validate: a permanent error, and one rejected run, committed before the error is
  raised (`taxonomyGenerate_rejected`).
* The answer is stored whole: a run, a version and the nodes (`taxonomyGenerate_stored`).
* PostgreSQL refuses a row: an ordinary error, and nothing at all is left, the run of the answer included
  (`taxonomyGenerate_refused`).

The tables are supposed to be referentially sound (`Referential`), which is what keeps the nodes of a new
version apart from those of older ones.  `StorableTaxonomies` says which answers are refused, and
`TaxonomyAttempt` what the runner makes of each end.
-/

namespace ReviewSignal

/-- The foreign key of `taxonomy_nodes` on `taxonomy_versions`. -/
def TaxonomyTables.Referential (tables : TaxonomyTables) : Prop :=
  ∀ node ∈ tables.nodes, node.taxonomyVersionId < tables.versions.length

namespace TaxonomyGenerationService

/-- The tables with a rejected run. -/
def withRejected (env : TaxonomyEnv) (exc : StructuredOutputError) (inputCount : ℕ) (sampleSize : ℤ)
    (tables : TaxonomyTables) : TaxonomyTables :=
  { tables with
    modelRuns := tables.modelRuns ++ [rejectedRun env.provider exc inputCount sampleSize] }

/-- The tables with an accepted run, its version, and the nodes of the version. -/
def withStored (env : TaxonomyEnv) (outcome : StructuredOutcome) (inputCount : ℕ) (sampleSize : ℤ)
    (tables : TaxonomyTables) : TaxonomyTables where
  reviews := tables.reviews
  modelRuns := tables.modelRuns ++ [acceptedRun env.provider outcome inputCount sampleSize]
  versions := tables.versions ++
    [⟨nextVersionNumber tables.versions, .candidate, "model", some tables.modelRuns.length⟩]
  nodes := tables.nodes ++
    nodeRows env.lower tables.versions.length tables.nodes.length outcome.value.nodes

/-- What PostgreSQL refuses is not an error of the service. -/
theorem typeName_of_refusedNode {nodes : List TaxonomyNode} {node : TaxonomyNode} {exc : Exn}
    (h : refusedNode nodes node = some exc) :
    exc.typeName ∈ ["DataError", "IntegrityError"] := by
  have htext : ∀ {width value exc}, refusedText width value = some exc →
      exc.typeName ∈ ["DataError", "IntegrityError"] := by
    intro width value exc h
    rw [refusedText] at h
    split_ifs at h <;> cases h <;> simp
  simp only [refusedNode, refusedTexts, Option.or_eq_some_iff] at h
  rcases h with (h | ⟨-, h | ⟨-, h⟩⟩) | ⟨-, h⟩
  · exact htext h
  · exact htext h
  · exact htext h
  · split_ifs at h
    cases h
    simp

theorem typeName_of_refusedRows {nodes rows : List TaxonomyNode} {exc : Exn}
    (h : refusedRows nodes rows = some exc) :
    exc.typeName ∈ ["DataError", "IntegrityError"] := by
  induction rows generalizing nodes with
  | nil => cases h
  | cons row rows ih =>
      rcases Option.or_eq_some_iff.mp h with h | ⟨-, h⟩
      · exact typeName_of_refusedNode h
      · exact ih h

section Generate

variable {env : TaxonomyEnv} {sampleSize : ℤ} {tables : TaxonomyTables} {outcome : StructuredOutcome}
  {exc : StructuredOutputError}

/-- The prompt a generation sends. -/
def promptOf (sampleSize : ℤ) (tables : TaxonomyTables) : String :=
  taxonomyGenerateV1.render (formatReviews (sampled sampleSize.toNat tables.reviews))

theorem sample_run (hsteady : env.Steady) (hsize : ValidLimit sampleSize) (s : TaxonomySession) :
    sample env sampleSize s = (.returned (sampled sampleSize.toNat s.working.reviews), s) := by
  obtain ⟨hnonneg, hbigint⟩ := hsize
  rw [sample, hsteady .sample, Faulty.pass_proceeds, pure_bind, if_neg (by omega), if_neg (by omega)]
  rfl

/-- A sample size that is no LIMIT is refused before anything is asked. -/
theorem generate_invalidLimit (hsteady : env.Steady) (hsize : ¬ ValidLimit sampleSize) :
    ∃ exc, generate env sampleSize ⟨tables, tables⟩ = (.raised exc, ⟨tables, tables⟩) ∧
      exc.typeName = "DataError" := by
  have hsample : ∃ exc, sample env sampleSize ⟨tables, tables⟩ = (.raised exc, ⟨tables, tables⟩) ∧
      exc.typeName = "DataError" := by
    rw [sample, hsteady .sample, Faulty.pass_proceeds, pure_bind]
    split_ifs with hrange hnegative
    · exact ⟨_, rfl, rfl⟩
    · exact ⟨_, rfl, rfl⟩
    · exact absurd ⟨by omega, by omega⟩ hsize
  obtain ⟨exc, hrun, htype⟩ := hsample
  exact ⟨exc, Faulty.bind_raised hrun, htype⟩

/-- Without a review that has text, nothing is asked and nothing stored. -/
theorem generate_empty (hsteady : env.Steady) (hsize : ValidLimit sampleSize)
    (hreviews : sampled sampleSize.toNat tables.reviews = []) :
    generate env sampleSize ⟨tables, tables⟩
      = (.raised (taxonomyGenerationError "No reviews with text to ground a taxonomy in."),
        ⟨tables, tables⟩) := by
  rw [generate, Faulty.bind_returned (sample_run hsteady hsize _), if_pos hreviews]
  rfl

/-- With one, the provider is asked once. -/
theorem generate_asks (hsteady : env.Steady) (hsize : ValidLimit sampleSize)
    (hreviews : sampled sampleSize.toNat tables.reviews ≠ []) :
    generate env sampleSize ⟨tables, tables⟩ = (match
      env.provider.generateStructured (promptOf sampleSize tables) with
      | .fails exc => .raise exc
      | .rejected exc => do
          recordRejection env exc (sampled sampleSize.toNat tables.reviews).length sampleSize
          .raise (taxonomyGenerationError exc.message)
      | .outcome outcome =>
          store env outcome (sampled sampleSize.toNat tables.reviews).length sampleSize :
        Generate ℕ) ⟨tables, tables⟩ := by
  rw [generate, Faulty.bind_returned (sample_run hsteady hsize _), if_neg hreviews,
    hsteady .model, Faulty.pass_proceeds, Faulty.pure_bind_run]
  rfl

/-- The rejected run is committed before the error is raised. -/
theorem recordRejection_run (hsteady : env.Steady) (inputCount : ℕ) :
    recordRejection env exc inputCount sampleSize ⟨tables, tables⟩
      = (.returned (), ⟨withRejected env exc inputCount sampleSize tables,
          withRejected env exc inputCount sampleSize tables⟩) := by
  simp [recordRejection, recordRun, hsteady .recordRun, hsteady .rejectCommit, withRejected,
    TaxonomySession.addModelRun, TaxonomySession.commit, -bind_pure_comp]

variable (sampleSize) in
/-- What `_store` comes to: everything is in the session, or a row was refused. -/
theorem store_run (hsteady : env.Steady) (htables : tables.Referential) (inputCount : ℕ) :
    (Storable env.lower outcome.value →
      store env outcome inputCount sampleSize ⟨tables, tables⟩ = (.returned tables.versions.length,
        ⟨tables, withStored env outcome inputCount sampleSize tables⟩)) ∧
    (¬ Storable env.lower outcome.value →
      ∃ exc s', store env outcome inputCount sampleSize ⟨tables, tables⟩ = (.raised exc, s') ∧
        s'.committed = tables ∧ exc.typeName ∈ ["DataError", "IntegrityError"]) := by
  set s : TaxonomySession := ⟨tables,
    { tables with
      modelRuns := tables.modelRuns ++ [acceptedRun env.provider outcome inputCount sampleSize]
      versions := tables.versions ++
        [⟨nextVersionNumber tables.versions, .candidate, "model", some tables.modelRuns.length⟩] }⟩
    with hs
  have hrun : store env outcome inputCount sampleSize ⟨tables, tables⟩
      = (insertRows (sentRows env.lower tables.versions.length tables.nodes.length
          outcome.value.nodes) >>= fun _ => pure tables.versions.length) s := by
    have hnodes := storeNodes_eq hsteady tables.versions.length 0 outcome.value.nodes [] s
    simp only [store, recordRun, hsteady .recordRun, hsteady .nextVersion, hsteady .insertVersion,
      TaxonomySession.addModelRun, TaxonomySession.addVersion, Faulty.pass_proceeds,
      Faulty.read_bind_run, Faulty.modify_bind_run, bind_assoc, pure_bind]
    exact Faulty.bind_congr_run hnodes _
  have hnew : ∀ stored ∈ s.working.nodes, stored.taxonomyVersionId ≠ tables.versions.length :=
    fun stored hstored => (htables stored hstored).ne
  rw [hrun]
  constructor
  · intro hfits
    have hnone := (refusedRows_sentRows hnew tables.nodes.length outcome.value).mpr hfits
    rw [Faulty.bind_returned (insertRows_of_none hnone)]
    rfl
  · intro hnot
    cases hrefused : refusedRows s.working.nodes (sentRows env.lower tables.versions.length
        tables.nodes.length outcome.value.nodes) with
    | none => exact absurd ((refusedRows_sentRows hnew _ outcome.value).mp hrefused) hnot
    | some refusal =>
        obtain ⟨s', hinsert, hcommitted⟩ := insertRows_of_some hrefused
        exact ⟨refusal, s', Faulty.bind_raised hinsert, hcommitted, typeName_of_refusedRows hrefused⟩

end Generate

end TaxonomyGenerationService

/-! ## The job

Each end of the service, with the transaction around it committed or rolled back. -/

namespace Jobs

open TaxonomyGenerationService

variable {env : TaxonomyEnv} {payload : Json} {n : ℤ} {tables : TaxonomyTables} {key : JobId}

/-- A generation that raises rolls back what it has not committed. -/
theorem taxonomyGenerate_of_raised (hpayload : sampleSize payload = .ok n) {exc : Exn}
    {s : TaxonomySession} (h : generate env n ⟨tables, tables⟩ = (.raised exc, s)) :
    taxonomyGenerate env payload key tables
      = (.raised (if exc.typeName = "TaxonomyGenerationError" then permanentJobError exc.message
          else exc), s.committed) := by
  have hsession : taxonomySession env payload ⟨tables, tables⟩
      = (.raised (if exc.typeName = "TaxonomyGenerationError" then permanentJobError exc.message
          else exc), s) := by
    rw [taxonomySession, hpayload]
    refine (Faulty.tryCatch_raised (Faulty.bind_raised h)).trans ?_
    split_ifs <;> rfl
  rw [taxonomyGenerate, hsession]

/-- So does one whose sample size is no LIMIT. -/
theorem taxonomyGenerate_invalidLimit (hsteady : env.Steady) (hpayload : sampleSize payload = .ok n)
    (hsize : ¬ ValidLimit n) :
    ∃ exc : Exn, taxonomyGenerate env payload key tables = (.raised exc, tables) ∧
      exc.typeName = "DataError" := by
  obtain ⟨exc, hgenerate, htype⟩ := @generate_invalidLimit env n tables hsteady hsize
  refine ⟨exc, ?_, htype⟩
  rw [taxonomyGenerate_of_raised hpayload hgenerate, if_neg (by simp [htype])]

theorem taxonomyGenerate_of_returned (hsteady : env.Steady) (hpayload : sampleSize payload = .ok n)
    {version : ℕ} {s : TaxonomySession}
    (h : generate env n ⟨tables, tables⟩ = (.returned version, s)) :
    taxonomyGenerate env payload key tables = (.returned (), s.working) := by
  have hsession : taxonomySession env payload ⟨tables, tables⟩ = (.returned (), s.commit) := by
    rw [taxonomySession, hpayload]
    refine Faulty.tryCatch_returned ((Faulty.bind_returned h).trans ?_)
    rw [hsteady .commit]
    rfl
  rw [taxonomyGenerate, hsession]
  rfl

section Cases

variable (hsteady : env.Steady) (hpayload : sampleSize payload = .ok n) (hsize : ValidLimit n)
include hsteady hpayload hsize

theorem taxonomyGenerate_empty (hreviews : sampled n.toNat tables.reviews = []) :
    taxonomyGenerate env payload key tables
      = (.raised (permanentJobError "No reviews with text to ground a taxonomy in."), tables) :=
  taxonomyGenerate_of_raised hpayload (generate_empty hsteady hsize hreviews)

variable (hreviews : sampled n.toNat tables.reviews ≠ [])
include hreviews

theorem taxonomyGenerate_fails {exc : Exn}
    (hreply : env.provider.generateStructured (promptOf n tables) = .fails exc) :
    taxonomyGenerate env payload key tables
      = (.raised (if exc.typeName = "TaxonomyGenerationError" then permanentJobError exc.message
          else exc), tables) := by
  refine taxonomyGenerate_of_raised (s := ⟨tables, tables⟩) hpayload ?_
  rw [generate_asks hsteady hsize hreviews, hreply]
  rfl

/-- A rejected answer leaves its run, and a permanent error. -/
theorem taxonomyGenerate_rejected {exc : StructuredOutputError}
    (hreply : env.provider.generateStructured (promptOf n tables) = .rejected exc) :
    taxonomyGenerate env payload key tables = (.raised (permanentJobError exc.message),
      withRejected env exc (sampled n.toNat tables.reviews).length n tables) := by
  set rejected := withRejected env exc (sampled n.toNat tables.reviews).length n tables
  have hgenerate : generate env n ⟨tables, tables⟩
      = (.raised (taxonomyGenerationError exc.message), ⟨rejected, rejected⟩) := by
    rw [generate_asks hsteady hsize hreviews, hreply]
    exact Faulty.bind_returned (recordRejection_run hsteady _)
  exact taxonomyGenerate_of_raised hpayload hgenerate

variable (htables : tables.Referential) {outcome : StructuredOutcome}
  (hreply : env.provider.generateStructured (promptOf n tables) = .outcome outcome)
include htables hreply

/-- An answer that fits its columns is stored whole. -/
theorem taxonomyGenerate_stored (hfits : Storable env.lower outcome.value) :
    taxonomyGenerate env payload key tables = (.returned (),
      withStored env outcome (sampled n.toNat tables.reviews).length n tables) := by
  have hgenerate : generate env n ⟨tables, tables⟩ = (.returned tables.versions.length,
      ⟨tables, withStored env outcome (sampled n.toNat tables.reviews).length n tables⟩) := by
    rw [generate_asks hsteady hsize hreviews, hreply]
    exact (store_run n hsteady htables _).1 hfits
  exact taxonomyGenerate_of_returned hsteady hpayload hgenerate

/-- One that does not leaves nothing, and an ordinary error. -/
theorem taxonomyGenerate_refused (hnot : ¬ Storable env.lower outcome.value) :
    ∃ exc : Exn, taxonomyGenerate env payload key tables = (.raised exc, tables) ∧
      exc.typeName ∈ ["DataError", "IntegrityError"] := by
  obtain ⟨exc, s', hrun, hcommitted, htype⟩ :=
    (store_run n hsteady htables (sampled n.toNat tables.reviews).length).2 hnot
  have hne : exc.typeName ≠ "TaxonomyGenerationError" := by
    intro h
    rw [h] at htype
    exact absurd htype (by decide)
  refine ⟨exc, ?_, htype⟩
  have hgenerate : generate env n ⟨tables, tables⟩ = (.raised exc, s') := by
    rw [generate_asks hsteady hsize hreviews, hreply]
    exact hrun
  rw [taxonomyGenerate_of_raised hpayload hgenerate, if_neg hne, hcommitted]

end Cases

end Jobs

/-! ## The execution

The job as a handler, where the runner itself meets no failure. -/

/-- An execution in which the runner itself meets no failure, of a job that has a handler. -/
theorem runJob_steady {σ : Type} {handler : Handler σ} {key : JobId} {db : WorkerDb σ} {job : Job}
    {ended : Ended Exn Unit} {store : σ} {outcome : HandlerOutcome} (startedAt finishedAt : Instant)
    (h : db.jobs.lookup key = some job) (htype : job.jobType ∈ handlers)
    (hhandled : handler job.payload key db.store = (ended, store))
    (houtcome : ended.outcome = some outcome) :
    let executed := Worker.runJob (.steady startedAt finishedAt) handler key db
    executed.2.jobs.lookup key = some (Runner.outcomeRow finishedAt
      (Runner.claim (Runner.running startedAt job)) outcome (Runner.running startedAt job)) ∧
    executed.2.store = store ∧ (executed.1 = .returned () ↔ outcome.reraised = false) := by
  have hprogress : (RunnerEnv.steady startedAt finishedAt).progress job.jobType
      (handler job.payload key db.store).1 = .recorded outcome := by
    simp [RunnerEnv.progress, RunnerEnv.Marks, RunnerEnv.Records, RunnerEnv.steady, handledOutcome,
      htype, hhandled, houtcome]
  obtain ⟨hrow, hstore, hended⟩ :=
    Worker.runJob_spec (.steady startedAt finishedAt) handler h
  rw [hprogress] at hrow hended
  refine ⟨hrow, ?_, hended.trans ?_⟩
  · rw [hstore, if_pos ⟨⟨rfl, rfl⟩, htype⟩, hhandled]
  · simp [RunnerEnv.steady]

end ReviewSignal
