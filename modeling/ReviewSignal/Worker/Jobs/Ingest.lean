import ReviewSignal.Services.GoogleToken
import ReviewSignal.Services.Ingestion

/-!
# The Google ingestion jobs

`jobs/ingest.py`: `google_backfill` and `google_sync` read the profile selected in the stored
credential and run the ingestion service on it.

The client is a function of the access token and the profile; `GoogleReviewSourceAdapter` wraps it.

**What a job does** (`ingestJob_cases`).  It refuses, and leaves the tables of the service alone; or Google is
connected, an access token can be had and a profile is selected (`admitted`, `selected`), and the job is a run
of the service on that profile.

The profile is looked at first, so a job without one asks nobody for a token.  The token service commits what
it writes by itself: a refreshed token stays whatever becomes of the run, and a credential whose grant Google
refuses is marked as invalid by a job that goes no further.
-/

namespace ReviewSignal

/-- A Google Business profile: the ids every request path is made of. -/
structure Profile where
  accountId : String
  locationId : String
  deriving DecidableEq, Repr

/-- The tables an ingestion job touches. -/
structure Store where
  credentials : CredentialTable
  db : Database

/-- The environment of one job: the token endpoint's answer should a refresh be needed, the adapter
of a token and a profile, and what the run of the service depends on. -/
structure IngestEnv where
  resolvedAt : Instant
  tokenAnswer : TokenAnswer
  google : String → Profile → ReviewSourceAdapter
  clock : RunClock
  fate : Point → Fate
  lifetime : ℕ

/-- The environment of the run of the service. -/
def IngestEnv.run (env : IngestEnv) (accessToken : String) (profile : Profile) : RunEnv where
  adapter := env.google accessToken profile
  clock := env.clock
  fate := env.fate
  lifetime := env.lifetime

/-- How a job ended: before the service ran, or with its run over a profile. -/
inductive IngestResult where
  | refused (exc : Exn)
  | ran (profile : Profile) (ended : Ended Raised IngestionOutcome)
  deriving DecidableEq, Repr

namespace Jobs

variable [Cipher]

/-- `_ingest` -/
def ingestJob (env : IngestEnv) (mode : Mode) (store : Store) : IngestResult × Store :=
  match GoogleToken.loadCredential "google" store.credentials with
  | .error exc => (.refused exc, store)
  | .ok credential =>
      match credential.accountId, credential.locationId with
      | some accountId, some locationId =>
          match GoogleToken.resolveAccessToken "google" env.resolvedAt env.tokenAnswer credential
              store.credentials with
          | (.error exc, credentials) => (.refused exc, { store with credentials })
          | (.ok accessToken, credentials) =>
              let (ended, db) := ingest (env.run accessToken ⟨accountId, locationId⟩) mode store.db
              (.ran ⟨accountId, locationId⟩ ended, ⟨credentials, db⟩)
      | _, _ =>
          (.refused (sourceNotConnectedError
            "The Google connection has no account/location selected yet."), store)

/-- `google_backfill` -/
def googleBackfill (env : IngestEnv) (store : Store) : IngestResult × Store :=
  ingestJob env .backfill store

/-- `google_sync` -/
def googleSync (env : IngestEnv) (store : Store) : IngestResult × Store :=
  ingestJob env .incremental store

/-- The profile selected in the stored credential, if both ids are. -/
def selected (credentials : CredentialTable) : Option Profile :=
  (credentials.lookup "google").bind fun credential =>
    match credential.accountId, credential.locationId with
    | some accountId, some locationId => some ⟨accountId, locationId⟩
    | _, _ => none

/-- Google is connected and an access token can be had: a job is not refused before it looks at the
selected profile. -/
def admitted (env : IngestEnv) (credentials : CredentialTable) : Bool :=
  match GoogleToken.loadCredential "google" credentials with
  | .error _ => false
  | .ok credential =>
      (GoogleToken.resolveAccessToken "google" env.resolvedAt env.tokenAnswer credential
        credentials).1.isOk

variable {env : IngestEnv} {mode : Mode} {store : Store}

/-- **What a job does**: it refuses and leaves the tables of the service alone, or it is admitted and
runs the service on the selected profile. -/
theorem ingestJob_cases (env : IngestEnv) (mode : Mode) (store : Store) :
    (∃ exc, (ingestJob env mode store).1 = .refused exc ∧
      (ingestJob env mode store).2.db = store.db) ∨
    ∃ accessToken profile, admitted env store.credentials ∧
      selected store.credentials = some profile ∧
      (ingestJob env mode store).1
        = .ran profile (ingest (env.run accessToken profile) mode store.db).1 ∧
      (ingestJob env mode store).2.db = (ingest (env.run accessToken profile) mode store.db).2 := by
  cases hload : GoogleToken.loadCredential "google" store.credentials with
  | error exc => exact .inl ⟨exc, by simp [ingestJob, hload]⟩
  | ok credential =>
      obtain ⟨hlookup, -⟩ := GoogleToken.loadCredential_eq_ok.mp hload
      cases haccount : credential.accountId with
      | none =>
          left
          simp [ingestJob, hload, haccount]
      | some accountId =>
          cases hlocation : credential.locationId with
          | none =>
              left
              simp [ingestJob, hload, haccount, hlocation]
          | some locationId =>
              have hselected : selected store.credentials = some ⟨accountId, locationId⟩ := by
                simp [selected, hlookup, haccount, hlocation]
              rcases htoken : GoogleToken.resolveAccessToken "google" env.resolvedAt env.tokenAnswer
                credential store.credentials with ⟨exc | accessToken, credentials⟩
              · exact .inl ⟨exc, by simp [ingestJob, hload, haccount, hlocation, htoken]⟩
              · have hadmitted : admitted env store.credentials := by
                  simp [admitted, hload, htoken, Except.isOk, Except.toBool]
                exact .inr ⟨accessToken, _, hadmitted, hselected,
                  by simp [ingestJob, hload, haccount, hlocation, htoken]⟩

end Jobs

end ReviewSignal
