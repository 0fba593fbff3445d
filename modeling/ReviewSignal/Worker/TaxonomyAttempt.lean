import ReviewSignal.Ai.Ollama
import ReviewSignal.Worker.CandidateVersions
import ReviewSignal.Worker.GenerationOutcome

/-!
# One attempt of a taxonomy job, from the provider to the row of the job

The retry loop of the provider, the service with its commit in the middle of an exception, the
rollback of `session_scope` and the runner, put together.

* `attempt_outcome` — what one execution of a `taxonomy_generate` job leaves in the tables and in its
  own row, for every corpus and every pair of replies of the model.  Two replies that are refused leave
  one row of `model_runs` and a dead letter; a reply that is accepted leaves its run, its version and
  all its nodes together; a corpus without text and a model that cannot be reached leave nothing.
* `oversized_sample_stores_nothing` — why the sample size has a bound.  It is sent as a LIMIT, which is
  a `bigint`; from `2 ^ 63` on the query of the sample raises, and the model is not asked.

That the texts of an accepted reply fit their columns is a hypothesis (`Storable`), and so is that
nothing but the model fails.
-/

namespace ReviewSignal

open TaxonomyGenerationService

/-- Some review has a text. -/
def HasText (reviews : List Review) : Prop :=
  ∃ review ∈ reviews, review.reviewText ≠ none ∧ review.reviewText ≠ some ""

theorem sampled_ne_nil {sampleSize : ℤ} (hsize : 1 ≤ sampleSize) (reviews : List Review) :
    sampled sampleSize.toNat reviews ≠ [] ↔ HasText reviews := by
  have hpos : sampleSize.toNat ≠ 0 := by omega
  rw [sampled, Ne, List.take_eq_nil_iff, or_iff_right hpos, ← List.length_eq_zero_iff,
    List.length_insertionSort, List.length_eq_zero_iff, List.filter_eq_nil_iff]
  simp [HasText]

/-- The environment of a job that asks Ollama, where nothing else fails. -/
def ollamaEnv (provider : OllamaProvider) (lower : String → String) : TaxonomyEnv :=
  ⟨provider.toProvider, lower, fun _ => .proceeds⟩

/-- One execution of a taxonomy job. -/
def executeTaxonomyJob (provider : OllamaProvider) (lower : String → String)
    (startedAt finishedAt : Instant) (key : JobId) (db : WorkerDb TaxonomyTables) :
    Ended Exn Unit × WorkerDb TaxonomyTables :=
  Worker.runJob (.steady startedAt finishedAt) (Jobs.taxonomyGenerate (ollamaEnv provider lower)) key db

/-- The execution settled the job: RQ sees it return, and the row has this status. -/
def Settles (status : JobStatus) (key : JobId)
    (executed : Ended Exn Unit × WorkerDb TaxonomyTables) : Prop :=
  executed.1 = .returned () ∧ (executed.2.jobs.lookup key).map (·.status) = some status

/-- One more row of `model_runs`, for a reply that was refused twice. -/
def KeepsRejection (sampleSize : ℤ) (before after : TaxonomyTables) : Prop :=
  ∃ run, after = { before with modelRuns := before.modelRuns ++ [run] } ∧
    run.success = false ∧ run.outputValid = false ∧ run.fallbackUsed = true ∧
    run.metadata = runMetadata sampleSize 2 0

/-- One more row of `model_runs`, one candidate version that points to it, and all nodes of the
reply. -/
def KeepsTaxonomy (lower : String → String) (sampleSize : ℤ) (attempt : ℕ)
    (value : GeneratedTaxonomy) (before after : TaxonomyTables) : Prop :=
  ∃ run version,
    after = {
      reviews := before.reviews
      modelRuns := before.modelRuns ++ [run]
      versions := before.versions ++ [version]
      nodes := before.nodes ++
        nodeRows lower before.versions.length before.nodes.length value.nodes } ∧
    run.success = true ∧ run.fallbackUsed = decide (attempt = 2) ∧
    run.metadata = runMetadata sampleSize attempt value.nodes.length ∧
    version.status = .candidate ∧ version.generationModelRunId = some before.modelRuns.length

section Outcome

variable {provider : OllamaProvider} {lower : String → String} {startedAt finishedAt : Instant}
  {key : JobId} {db : WorkerDb TaxonomyTables} {job : Job} {n : ℤ}

/-- The status an outcome leaves a job in, after so many attempts. -/
def HandlerOutcome.status (attempts maxAttempts : ℕ) : HandlerOutcome → JobStatus
  | .returns => .succeeded
  | .permanent _ => .deadLetter
  | .raises _ => if maxAttempts ≤ attempts then .deadLetter else .failed

/-- What the runner makes of the way the handler ended. -/
theorem execute_of_handled {ended : Ended Exn Unit} {store : TaxonomyTables} {outcome : HandlerOutcome}
    (h : db.jobs.lookup key = some job) (htype : job.jobType = "taxonomy_generate")
    (hhandled : Jobs.taxonomyGenerate (ollamaEnv provider lower) job.payload key db.store
      = (ended, store))
    (houtcome : ended.outcome = some outcome) :
    let executed := executeTaxonomyJob provider lower startedAt finishedAt key db
    executed.2.store = store ∧ (executed.1 = .returned () ↔ outcome.reraised = false) ∧
    (executed.2.jobs.lookup key).map (·.status)
      = some (outcome.status (job.attemptCount + 1) job.maxAttempts) := by
  obtain ⟨hrow, hstore, hended⟩ :=
    runJob_steady startedAt finishedAt h (by rw [htype]; decide) hhandled houtcome
  refine ⟨hstore, hended, ?_⟩
  rw [executeTaxonomyJob, hrow]
  cases outcome <;>
    simp [Runner.outcomeRow, Runner.recordSuccess, Runner.recordFailure, Runner.claim, Runner.running,
      HandlerOutcome.status]

theorem outcome_permanent (message : String) :
    (Ended.raised (permanentJobError message) : Ended Exn Unit).outcome
      = some (.permanent (permanentJobError message)) :=
  congrArg some (if_pos rfl)

/-- **The outcome of one attempt**, by the replies of the model, for every sample size a LIMIT can be.
Without a review that has text nothing is stored, and two replies that are refused leave their rejected run:
both end the job.  A reply that is accepted is stored whole, with its run, its version and its nodes.  A
failure of the provider leaves the store alone and is retried while there are attempts. -/
theorem attempt_outcome (h : db.jobs.lookup key = some job)
    (htype : job.jobType = "taxonomy_generate") (hpayload : Jobs.sampleSize job.payload = .ok n)
    (hsize : 1 ≤ n) (hbigint : n < 2 ^ 63) (htables : db.store.Referential)
    (hfits : ∀ attempt ∈ [1, 2], ∀ value,
      provider.reply (promptOf n db.store) attempt = .valid value → Storable lower value) :
    let reply := provider.reply (promptOf n db.store)
    let executed := executeTaxonomyJob provider lower startedAt finishedAt key db
    (¬ HasText db.store.reviews → executed.2.store = db.store ∧ Settles .deadLetter key executed) ∧
    (HasText db.store.reviews → ∀ first second, reply 1 = .invalid first → reply 2 = .invalid second →
      KeepsRejection n db.store executed.2.store ∧ Settles .deadLetter key executed) ∧
    (HasText db.store.reviews → ∀ value, reply 1 = .valid value →
      KeepsTaxonomy lower n 1 value db.store executed.2.store ∧ Settles .succeeded key executed) ∧
    (HasText db.store.reviews → ∀ first value, reply 1 = .invalid first → reply 2 = .valid value →
      KeepsTaxonomy lower n 2 value db.store executed.2.store ∧ Settles .succeeded key executed) ∧
    (HasText db.store.reviews → ∀ exc, (reply 1 = .failure exc ∨
        (∃ first, reply 1 = .invalid first) ∧ reply 2 = .failure exc) →
      executed.2.store = db.store ∧
      (exc.typeName ≠ "TaxonomyGenerationError" → exc.typeName ≠ "PermanentJobError" →
        (executed.2.jobs.lookup key).map (·.status) = some
          (if job.maxAttempts ≤ job.attemptCount + 1 then .deadLetter else .failed))) := by
  intro reply executed
  have hsteady : (ollamaEnv provider lower).Steady := fun _ => rfl
  rw [← sampled_ne_nil hsize, not_not]
  have hsize : ValidLimit n := ⟨by omega, hbigint⟩
  refine ⟨?_, ?_, ?_, ?_, ?_⟩
  · intro hreviews
    obtain ⟨hstore, hended, hstatus⟩ := execute_of_handled h htype
      (Jobs.taxonomyGenerate_empty hsteady hpayload hsize hreviews) (outcome_permanent _)
    exact ⟨hstore, hended.mpr rfl, hstatus⟩
  · intro hreviews first second hfirst hsecond
    obtain ⟨hstore, hended, hstatus⟩ := execute_of_handled h htype
      (Jobs.taxonomyGenerate_rejected hsteady hpayload hsize hreviews
        (OllamaProvider.generateStructured_rejected hfirst hsecond)) (outcome_permanent _)
    exact ⟨⟨_, hstore, rfl, rfl, rfl, rfl⟩, hended.mpr rfl, hstatus⟩
  · intro hreviews value hvalid
    obtain ⟨hstore, hended, hstatus⟩ := execute_of_handled h htype
      (Jobs.taxonomyGenerate_stored hsteady hpayload hsize hreviews htables
        (OllamaProvider.generateStructured_first hvalid) (hfits 1 (by decide) value hvalid)) rfl
    exact ⟨⟨_, _, hstore, rfl, rfl, rfl, rfl, rfl⟩, hended.mpr rfl, hstatus⟩
  · intro hreviews first value hfirst hvalid
    obtain ⟨hstore, hended, hstatus⟩ := execute_of_handled h htype
      (Jobs.taxonomyGenerate_stored hsteady hpayload hsize hreviews htables
        (OllamaProvider.generateStructured_second hfirst hvalid) (hfits 2 (by decide) value hvalid)) rfl
    exact ⟨⟨_, _, hstore, rfl, rfl, rfl, rfl, rfl⟩, hended.mpr rfl, hstatus⟩
  · intro hreviews exc hfailure
    obtain ⟨hstore, -, hstatus⟩ := execute_of_handled h htype
      (Jobs.taxonomyGenerate_fails hsteady hpayload hsize hreviews
        (OllamaProvider.generateStructured_fails hfailure)) rfl
    refine ⟨hstore, fun hservice hpermanent => ?_⟩
    rw [if_neg hservice, show HandlerOutcome.ofExn exc = .raises exc from if_neg hpermanent] at hstatus
    exact hstatus

end Outcome

/-- A category, after a reply that did not match the schema. -/
def secondTimeProvider : OllamaProvider where
  model := "fake-model"
  schema := .obj []
  post attempt _ := .response 200 "" (.ok (.obj [("message", .obj [("content", .num attempt)])]))
  validate content := if content = .num 1 then .error ⟨3, "3 validation errors"⟩
    else .ok printsTaxonomy
  statusMessage _ := ""
  elapsedMs attempt := attempt

/-- The retry is stored, and says that it is one. -/
theorem attempt_outcome_second_time :
    let db : WorkerDb TaxonomyTables :=
      ⟨(∅ : JobTable).insert 7 (enqueuedJob "taxonomy_generate" (.obj []) 3), reviewedTables⟩
    let executed := executeTaxonomyJob secondTimeProvider id 1 2 7 db
    KeepsTaxonomy id 150 2 ⟨[⟨"prints", "Photo prints", [], by decide, by decide⟩], by decide⟩
      reviewedTables executed.2.store ∧ Settles .succeeded 7 executed := by
  intro db
  have houtcome := @attempt_outcome secondTimeProvider id 1 2 7 db
    (enqueuedJob "taxonomy_generate" (.obj []) 3) 150 (Finmap.lookup_insert _) rfl rfl (by decide)
    (by decide) reviewedTables_referential ?_
  · obtain ⟨-, -, -, hsecond, -⟩ := houtcome
    exact hsecond ⟨_, List.mem_singleton.mpr rfl, nofun, by decide⟩ ⟨3, "3 validation errors"⟩ _ rfl rfl
  · intro attempt hattempt value hvalid
    rcases List.mem_cons.mp hattempt with rfl | hattempt
    · cases hvalid
    · rw [List.mem_singleton.mp hattempt] at hvalid
      cases hvalid
      exact .of_short (by decide) (by decide) (by decide)

/-- A sample of `2 ^ 63` reviews. -/
def oversizedPayload : Json := .obj [("sample_size", .num 9223372036854775808)]

theorem sampleSize_oversizedPayload : Jobs.sampleSize oversizedPayload = .ok (2 ^ 63) := by
  have hget : oversizedPayload.get? "sample_size" = some (.num 9223372036854775808) := rfl
  simp [Jobs.sampleSize, hget, intOfJson]

/-- The same replies with a sample size of `2 ^ 63`: the model is not asked, and nothing is stored. -/
theorem oversized_sample_stores_nothing :
    let db : WorkerDb TaxonomyTables :=
      ⟨(∅ : JobTable).insert 7 (enqueuedJob "taxonomy_generate" oversizedPayload 3), reviewedTables⟩
    let executed := executeTaxonomyJob secondTimeProvider id 1 2 7 db
    executed.2.store = reviewedTables ∧
    ¬ (KeepsTaxonomy id (2 ^ 63) 2 printsTaxonomy reviewedTables executed.2.store ∧
      Settles .succeeded 7 executed) := by
  intro db executed
  have hlimit : ¬ ValidLimit (2 ^ 63) := fun h => lt_irrefl _ h.2
  obtain ⟨exc, hrun, htype⟩ : ∃ exc : Exn, Jobs.taxonomyGenerate (ollamaEnv secondTimeProvider id)
      oversizedPayload 7 reviewedTables = (.raised exc, reviewedTables) ∧ exc.typeName = "DataError" :=
    Jobs.taxonomyGenerate_invalidLimit (fun _ => rfl) sampleSize_oversizedPayload hlimit
  have hordinary : HandlerOutcome.ofExn exc = .raises exc := if_neg (by simp [htype])
  obtain ⟨hstore, hended, -⟩ := @execute_of_handled secondTimeProvider id 1 2 7 db
    (enqueuedJob "taxonomy_generate" oversizedPayload 3) (.raised exc) reviewedTables (.raises exc)
    (Finmap.lookup_insert _) rfl hrun (congrArg some hordinary)
  refine ⟨hstore, ?_⟩
  rintro ⟨-, hreturned, -⟩
  cases hended.mp hreturned

end ReviewSignal
