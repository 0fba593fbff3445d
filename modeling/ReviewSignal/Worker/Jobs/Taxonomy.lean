import ReviewSignal.Services.TaxonomyGeneration
import ReviewSignal.Worker.Redelivery

/-!
# The taxonomy generation job

`jobs/taxonomy.py`: `taxonomy_generate` runs the service in one transaction, and turns a
`TaxonomyGenerationError` into a `PermanentJobError`.

The sample size comes from the payload through `int()`, which takes numbers, booleans and texts of digits
and raises on the rest; its exceptions are ordinary ones (`sampleSize`).  Of texts, those of ASCII digits
are modelled.

**What a job adds** (`ensures_taxonomySession`).  One version when it returns (`taxonomyGenerate_returned`),
and none otherwise (`taxonomyGenerate_stopped`), whatever raised and wherever the process died.  The rejected
run of an answer that does not validate is committed on its own, before the error, and adds no version.
-/

namespace ReviewSignal

/-- The digits of `int(text)`, from the value of those before, single underscores between them. -/
def intDigits : ℕ → Bool → List Char → Option ℕ
  | value, afterDigit, [] => if afterDigit then some value else none
  | value, afterDigit, c :: cs =>
      if c.isDigit then intDigits (10 * value + (c.toNat - '0'.toNat)) true cs
      else if c = '_' ∧ afterDigit then intDigits value false cs
      else none

/-- `int(text)`, of ASCII digits. -/
def intOfString (text : String) : Except Exn ℤ :=
  let parsed := match stripChars isSpace text.toList with
    | '-' :: digits => (intDigits 0 false digits).map fun n => -(n : ℤ)
    | '+' :: digits => (intDigits 0 false digits).map (↑)
    | digits => (intDigits 0 false digits).map (↑)
  match parsed with
  | some n => .ok n
  | none => .error ⟨"ValueError", "invalid literal for int() with base 10: '" ++ text ++ "'"⟩

/-- `int(value)` of a JSON value. -/
def intOfJson : Json → Except Exn ℤ
  | .bool b => .ok (if b then 1 else 0)
  | .num q => .ok (q.num.tdiv q.den)
  | .str text => intOfString text
  | .null => .error ⟨"TypeError",
      "int() argument must be a string, a bytes-like object or a real number, not 'NoneType'"⟩
  | .arr _ => .error ⟨"TypeError",
      "int() argument must be a string, a bytes-like object or a real number, not 'list'"⟩
  | .obj _ => .error ⟨"TypeError",
      "int() argument must be a string, a bytes-like object or a real number, not 'dict'"⟩

namespace Jobs

/-- `DEFAULT_SAMPLE_SIZE` -/
def defaultSampleSize : ℤ := 150

/-- `int(payload.get("sample_size", DEFAULT_SAMPLE_SIZE))` -/
def sampleSize (payload : Json) : Except Exn ℤ :=
  match payload.get? "sample_size" with
  | none => .ok defaultSampleSize
  | some value => intOfJson value

/-- The body of the `with session_scope()` block, and its commit. -/
def generateAndCommit (env : TaxonomyEnv) (sampleSize : ℤ) : Generate Unit := do
  let _ ← TaxonomyGenerationService.generate env sampleSize
  .pass (env.fate .commit)
  .modify (·.commit)

/-- `taxonomy_generate`, on one session. -/
def taxonomySession (env : TaxonomyEnv) (payload : Json) : Generate Unit :=
  match sampleSize payload with
  | .error exc => .raise exc
  | .ok n => (generateAndCommit env n).tryCatch fun exc =>
      if exc.typeName = "TaxonomyGenerationError" then .raise (permanentJobError exc.message)
      else .raise exc

/-- `taxonomy_generate` -/
def taxonomyGenerate (env : TaxonomyEnv) : Handler TaxonomyTables := fun payload _ tables =>
  let (ended, s) := taxonomySession env payload ⟨tables, tables⟩
  (ended, s.committed)

end Jobs

/-! ## The versions a job adds

A triple for each function of the service.  The session has two views, the committed tables and those of the
transaction, and the versions of both are what the triples speak of. -/

open Faulty

/-- The versions of both views of a session. -/
def TaxonomySession.Views (committed working : List TaxonomyVersion) (s : TaxonomySession) : Prop :=
  s.committed.versions = committed ∧ s.working.versions = working

/-- The committed versions are the ones before the job. -/
def TaxonomySession.Unchanged (versions : List TaxonomyVersion) (s : TaxonomySession) : Prop :=
  s.committed.versions = versions

namespace TaxonomyGenerationService

open TaxonomySession

variable {env : TaxonomyEnv} {versions working : List TaxonomyVersion}

theorem ensures_sample (sampleSize : ℤ) :
    Ensures (sample env sampleSize) (Views versions working) (fun _ => Views versions working)
      (Unchanged versions) := by
  refine ensures_pass_bind _ (fun s h => h.1) ?_
  split_ifs
  · exact ensures_raise _ fun s h => h.1
  · exact ensures_raise _ fun s h => h.1
  · exact ensures_read fun s h => h

theorem ensures_recordRun (run : ModelRun) :
    Ensures (recordRun env run) (Views versions working) (fun _ => Views versions working)
      (Unchanged versions) := by
  refine ensures_pass_bind _ (fun s h => h.1) (ensures_read_bind fun runs => ?_)
  exact ensures_modify_bind _ (fun s h => h.1) (ensures_pure _ fun s h => h)

theorem ensures_storeNode (point : TaxonomyPoint) (node : TaxonomyNode) :
    Ensures (storeNode env point node) (Views versions working)
      (fun _ => Views versions working) (Unchanged versions) := by
  refine ensures_pass_bind _ (fun s h => h.1) (ensures_read_bind fun nodes => ?_)
  cases refusedNode nodes node with
  | some exc => exact ensures_raise _ fun s h => h.1.1
  | none => exact ensures_modify_bind _ (fun s h => h.1) (ensures_pure _ fun s h => h)

theorem ensures_storeChildren (versionId order parentId childOrder : ℕ)
    (children : List GeneratedSubcategory) (used : List String) :
    Ensures (storeChildren env versionId order parentId childOrder children used)
      (Views versions working) (fun _ => Views versions working) (Unchanged versions) := by
  induction children generalizing childOrder used with
  | nil => exact ensures_pure _ fun s h => h
  | cons child children ih => exact (ensures_storeNode _ _).bind fun _ => ih _ _

theorem ensures_storeNodes (versionId order : ℕ) (categories : List GeneratedCategory)
    (used : List String) :
    Ensures (storeNodes env versionId order categories used) (Views versions working)
      (fun _ => Views versions working) (Unchanged versions) := by
  induction categories generalizing order used with
  | nil => exact ensures_pure _ fun s h => h
  | cons category categories ih =>
      refine (ensures_storeNode _ _).bind fun parentId => ?_
      exact (ensures_storeChildren _ _ _ _ _ _).bind fun used => ih _ _

/-- `_store` adds one version to the session, and commits nothing. -/
theorem ensures_store (outcome : StructuredOutcome) (inputCount : ℕ) (sampleSize : ℤ) :
    Ensures (store env outcome inputCount sampleSize) (Views versions versions)
      (fun _ s => ∃ version, Views versions (versions ++ [version]) s) (Unchanged versions) := by
  refine (ensures_recordRun _).bind fun runId => ?_
  refine ensures_pass_bind _ (fun s h => h.1) (ensures_read_bind fun read => ?_)
  refine ensures_pass_bind _ (fun s h => h.1.1) ?_
  refine ensures_modify_bind (Views versions
    (versions ++ [⟨nextVersionNumber read, .candidate, "model", some runId⟩])) ?_ ?_
  · rintro s ⟨⟨hcommitted, hworking⟩, -⟩
    exact ⟨hcommitted, by simp [addVersion, hworking]⟩
  · exact (ensures_storeNodes _ _ _ _).bind fun _ => ensures_pure _ fun s h => ⟨_, h⟩

/-- `generate` returns with one more version in the session, and nothing committed; when it does not
return, no version was committed. -/
theorem ensures_generate (sampleSize : ℤ) :
    Ensures (generate env sampleSize) (Views versions versions)
      (fun _ s => ∃ version, Views versions (versions ++ [version]) s) (Unchanged versions) := by
  refine (ensures_sample _).bind fun reviews => ?_
  by_cases hempty : reviews = []
  · rw [if_pos hempty]
    exact ensures_raise _ fun s h => h.1
  · rw [if_neg hempty]
    refine ensures_pass_bind _ (fun s h => h.1) ?_
    cases env.provider.generateStructured (taxonomyGenerateV1.render (formatReviews reviews)) with
    | fails exc => exact ensures_raise _ fun s h => h.1
    | outcome outcome => exact ensures_store _ _ _
    | rejected exc =>
        -- the rejected run is committed by itself: the session holds no version yet
        refine Ensures.bind (Q := fun _ => Unchanged versions) ?_ fun _ => ensures_raise _ fun s h => h
        refine (ensures_recordRun _).bind fun _ => ensures_pass_bind _ (fun s h => h.1) ?_
        exact fun s h => h.2

end TaxonomyGenerationService

namespace Jobs

variable {env : TaxonomyEnv} {payload : Json} {key : JobId} {tables : TaxonomyTables}

/-- **What a job adds**: one version when it returns, and none otherwise. -/
theorem ensures_taxonomySession (versions : List TaxonomyVersion) :
    Ensures (taxonomySession env payload) (TaxonomySession.Views versions versions)
      (fun _ s => ∃ version, s.committed.versions = versions ++ [version])
      (TaxonomySession.Unchanged versions) := by
  rw [taxonomySession]
  cases sampleSize payload with
  | error exc => exact ensures_raise _ fun s h => h.1
  | ok n =>
      have hbody : Ensures (generateAndCommit env n) (TaxonomySession.Views versions versions)
          (fun _ s => ∃ version, s.committed.versions = versions ++ [version])
          (TaxonomySession.Unchanged versions) := by
        refine (TaxonomyGenerationService.ensures_generate n).bind fun _ => ?_
        refine ensures_pass_bind _ (fun s ⟨_, h⟩ => h.1) ?_
        exact fun s ⟨version, h⟩ => ⟨version, h.2⟩
      refine hbody.tryCatch (fun exc => ?_) fun s h => h
      split_ifs <;> exact ensures_raise _ fun s h => h

theorem taxonomyGenerate_returned (h : (taxonomyGenerate env payload key tables).1 = .returned ()) :
    ∃ version, (taxonomyGenerate env payload key tables).2.versions = tables.versions ++ [version] :=
  (ensures_taxonomySession tables.versions).returned (s := ⟨tables, tables⟩) ⟨rfl, rfl⟩
    (Prod.ext h rfl)

theorem taxonomyGenerate_stopped (h : (taxonomyGenerate env payload key tables).1 ≠ .returned ()) :
    (taxonomyGenerate env payload key tables).2.versions = tables.versions :=
  (ensures_taxonomySession tables.versions).stopped (s := ⟨tables, tables⟩) ⟨rfl, rfl⟩ rfl
    fun () => h

end Jobs

end ReviewSignal
