import ReviewSignal.Core.Crypto
import ReviewSignal.Foundations.Json
import Mathlib.Data.Finmap

/-!
# The tables

The columns the modelled code reads or writes, with the vocabularies of their CHECK constraints as
inductive types.  Columns only the database fills (`id`, `inserted_at`, `queued_at`) are left out.

`reviews` is a finite map from `source_review_id` to the other columns: the unique constraint on
that column is part of the type, and a table has no row order.  `sync_runs` is the list of its rows
in the order they were inserted; no code deletes one, so a row's position serves as its primary key.

A credential carries its CHECK constraint as a field, so that a connected row without a refresh token cannot
be built, and a function that would write one has to say what PostgreSQL does.
-/

namespace ReviewSignal

/-- A timezone-aware timestamp: microseconds since the epoch, UTC. -/
abbrev Instant := ℤ

/-! ## `reviews`

Written by `upsert` and by the analyser. -/

/-- `REVIEW_ANALYSIS_STATUSES` -/
inductive AnalysisStatus where
  | pending
  | analyzed
  | failed
  | skipped
  deriving DecidableEq, Repr

/-- One row of `reviews`, without its key. -/
structure Review where
  source : String
  rating : ℤ
  reviewText : Option String
  reviewerName : Option String
  createdAt : Instant
  updatedAt : Instant
  ownerReplyText : Option String
  ownerReplyAt : Option Instant
  language : String
  rawPayload : Json
  analysisStatus : AnalysisStatus
  deriving DecidableEq

/-- The `reviews` table, keyed by `source_review_id`. -/
abbrev ReviewTable := Finmap fun _ : String => Review

/-! ## `sync_runs`

One row for each run of the ingestion service. -/

/-- `SYNC_RUN_STATUSES`.  `partially` is the source's `partial`, which Lean reserves. -/
inductive SyncRunStatus where
  | running
  | success
  | failed
  | partially
  deriving DecidableEq, Repr

/-- One row of `sync_runs`. -/
structure SyncRun where
  source : String
  startedAt : Instant
  finishedAt : Option Instant := none
  status : SyncRunStatus
  reviewsFetched : ℕ := 0
  reviewsCreated : ℕ := 0
  reviewsUpdated : ℕ := 0
  errorMessage : Option String := none
  cursorState : Option Json := none
  deriving DecidableEq

/-- The two tables an ingestion run touches. -/
structure Database where
  reviews : ReviewTable
  syncRuns : List SyncRun
  deriving DecidableEq

/-- A database nothing was ever ingested into. -/
def Database.empty : Database := ⟨∅, []⟩

/-! ## `jobs`

Written by `enqueue` and by the two transactions of an execution. -/

/-- `JOB_STATUSES` -/
inductive JobStatus where
  | queued
  | running
  | succeeded
  | failed
  | deadLetter
  deriving DecidableEq, Repr

/-- One row of `jobs`.  `max_attempts >= 1` is its CHECK constraint. -/
structure Job where
  jobType : String
  status : JobStatus
  payload : Json
  attemptCount : ℕ := 0
  maxAttempts : ℕ
  startedAt : Option Instant := none
  finishedAt : Option Instant := none
  errorMessage : Option String := none
  deriving DecidableEq

/-! ## `evaluation_runs`

One row for each evaluation job that was recorded. -/

/-- One row of `evaluation_runs`.  `job_id` is unique among the rows that have one, and a foreign key
on `jobs`. -/
structure EvaluationRun where
  jobId : Option ℕ
  evaluationType : String
  modelName : String
  modelVersion : Option String
  promptVersion : Option String
  taxonomyVersionId : Option ℕ
  taxonomyVersion : Option String
  datasetVersion : String
  metrics : Json
  notes : Option String
  deriving DecidableEq

/-! ## `source_credentials`

One row for each source.  The tokens are ciphertexts. -/

/-- `SOURCE_CREDENTIAL_STATUSES` -/
inductive CredentialStatus where
  | connected
  | disconnected
  | invalid
  deriving DecidableEq, Repr

/-- One row of `source_credentials`, without its key `source`, with its CHECK constraint: a connected
source holds a refresh token. -/
structure SourceCredential where
  status : CredentialStatus
  accountId : Option String
  locationId : Option String
  accessTokenEncrypted : Option Ciphertext
  refreshTokenEncrypted : Option Ciphertext
  tokenExpiresAt : Option Instant
  scopes : List String
  connectedAt : Option Instant
  updatedAt : Instant
  connected_has_token : status = .connected → refreshTokenEncrypted.isSome
  deriving DecidableEq

/-- The `source_credentials` table, keyed by `source`. -/
abbrev CredentialTable := Finmap fun _ : String => SourceCredential

/-! ## `model_runs`, `taxonomy_versions`, `taxonomy_nodes`

What a generation writes, and the reviews it samples. -/

/-- One row of `model_runs`. -/
structure ModelRun where
  task : String
  provider : String
  modelName : String
  modelVersion : Option String
  promptVersion : Option String
  inputCount : ℕ
  latencyMs : ℕ
  success : Bool
  fallbackUsed : Bool
  outputValid : Bool
  errorMessage : Option String := none
  metadata : Json
  deriving DecidableEq

/-- `TAXONOMY_VERSION_STATUSES` -/
inductive TaxonomyVersionStatus where
  | candidate
  | active
  | archived
  | failed
  deriving DecidableEq, Repr

/-- One row of `taxonomy_versions`.  `generationModelRunId` is the position of a row of
`model_runs`. -/
structure TaxonomyVersion where
  versionNumber : ℕ
  status : TaxonomyVersionStatus
  createdBy : String
  generationModelRunId : Option ℕ
  deriving DecidableEq, Repr

/-- One row of `taxonomy_nodes`.  Ids are positions in their tables. -/
structure TaxonomyNode where
  taxonomyVersionId : ℕ
  parentId : Option ℕ
  name : String
  description : String
  slug : String
  depth : ℕ
  sortOrder : ℕ
  deriving DecidableEq, Repr

/-- The tables taxonomy generation touches.  No code deletes a row of the last three, and a row's
position serves as its primary key. -/
structure TaxonomyTables where
  reviews : List Review
  modelRuns : List ModelRun
  versions : List TaxonomyVersion
  nodes : List TaxonomyNode
  deriving DecidableEq

end ReviewSignal
