import ReviewSignal.Foundations.Simulation
import ReviewSignal.Services.ConnectionRequests
import ReviewSignal.Services.GoogleAnswers
import ReviewSignal.Worker.Jobs.Ingest

/-!
# What is asked of the Google connection

The routes of `api/v1/google.py` and the jobs of `jobs/ingest.py` over one store, as events that are
replied to one after the other.  The environment of an event (the time, the answers of Google, what
becomes of a run) is part of the event.

* `status`, `accessToken`, `discover` — the functions of `GoogleConnectionService` the other modules
  leave out;
* `client` — what `_ingest` gets from the credential before it runs the service, and `ingestJob_eq`, that a
  job gets its client and runs the service with it;
* `ConnectionEvent.serve` — the reply to an event and the store it leaves.

A listing of accounts or locations is a function of the access token, and the callback is taken after its
state was checked: `DocumentedErrors` and `StateBinding` are about these two.  The routes that queue a job
check that Google is connected and no more, and the job they queue is an event of its own.

What the events amount to is the subject of `ConnectionMachine`.
-/

namespace ReviewSignal

variable [Cipher]

/-- `latest_sync_run().started_at`.  The instant does not depend on which of the latest rows it is. -/
def SystemRepository.latestStartedAt (syncRuns : List SyncRun) : Option Instant :=
  (syncRuns.map (·.startedAt)).max?

/-- `GoogleStatusPayload` -/
structure GoogleStatusPayload where
  connected : Bool
  status : CredentialStatus
  accountId : Option String
  locationId : Option String
  connectedAt : Option Instant
  lastSync : Option Instant
  deriving DecidableEq

namespace GoogleConnectionService

/-- `status` -/
def status (store : Store) : GoogleStatusPayload :=
  let lastSync := SystemRepository.latestStartedAt store.db.syncRuns
  match CredentialRepository.get source store.credentials with
  | none => ⟨false, .disconnected, none, none, none, lastSync⟩
  | some credential =>
      { connected := credential.status = .connected
        status := credential.status
        accountId := credential.accountId
        locationId := credential.locationId
        connectedAt := credential.connectedAt
        lastSync }

/-- `_access_token` -/
def accessToken (now : Instant) (answer : TokenAnswer) (table : CredentialTable) :
    Except Exn String × CredentialTable :=
  match GoogleToken.loadCredential source table with
  | .error exc => (.error exc, table)
  | .ok credential => GoogleToken.resolveAccessToken source now answer credential table

/-- `list_accounts` and `list_locations`: the guard, then `_discover`. -/
def discover (now : Instant) (answer : TokenAnswer)
    (listing : String → Except Exn (List (String × String))) (table : CredentialTable) :
    Except Exn (List (String × String)) × CredentialTable :=
  match ensureConnected table with
  | .error exc => (.error exc, table)
  | .ok () =>
      let (token, table) := accessToken now answer table
      ((token >>= listing).mapError GoogleAnswers.translated, table)

end GoogleConnectionService

/-! ## The jobs

A job in two halves, of which the first one alone looks at the credential. -/

namespace Jobs

/-- `_ingest` up to the client: the access token and the profile it is built with. -/
def client (now : Instant) (answer : TokenAnswer) (table : CredentialTable) :
    Except Exn (String × Profile) × CredentialTable :=
  match GoogleToken.loadCredential "google" table with
  | .error exc => (.error exc, table)
  | .ok credential =>
      match credential.accountId, credential.locationId with
      | some accountId, some locationId =>
          match GoogleToken.resolveAccessToken "google" now answer credential table with
          | (.error exc, table) => (.error exc, table)
          | (.ok accessToken, table) => (.ok (accessToken, ⟨accountId, locationId⟩), table)
      | _, _ =>
          (.error (sourceNotConnectedError
            "The Google connection has no account/location selected yet."), table)

/-- The rest of `_ingest`: the run of the service, with the client. -/
def runClient (env : IngestEnv) (mode : Mode) (db : Database) :
    Except Exn (String × Profile) → IngestResult × Database
  | .error exc => (.refused exc, db)
  | .ok (accessToken, profile) =>
      let (ended, db) := ingest (env.run accessToken profile) mode db
      (.ran profile ended, db)

/-- **A job gets its client and runs the service with it.** -/
theorem ingestJob_eq (env : IngestEnv) (mode : Mode) (store : Store) :
    ingestJob env mode store
      = ((runClient env mode store.db (client env.resolvedAt env.tokenAnswer store.credentials).1).1,
        ⟨(client env.resolvedAt env.tokenAnswer store.credentials).2,
          (runClient env mode store.db
            (client env.resolvedAt env.tokenAnswer store.credentials).1).2⟩) := by
  rw [ingestJob, client]
  cases GoogleToken.loadCredential "google" store.credentials with
  | error exc => rfl
  | ok credential =>
      cases haccount : credential.accountId with
      | none => simp [haccount, runClient]
      | some accountId =>
          cases hlocation : credential.locationId with
          | none => simp [haccount, hlocation, runClient]
          | some locationId =>
              rcases hresolve : GoogleToken.resolveAccessToken "google" env.resolvedAt env.tokenAnswer
                credential store.credentials with ⟨exc | accessToken, after⟩ <;>
                simp [haccount, hlocation, hresolve, runClient]

end Jobs

/-! ## The events

One constructor for each route, and one for a job in either mode. -/

/-- A route that is called, or a job that is run, with what the outside world does meanwhile. -/
inductive ConnectionEvent where
  | status
  /-- The callback, after its state was checked. -/
  | complete (now : Instant) (answer : TokenAnswer)
  | discover (now : Instant) (answer : TokenAnswer)
      (listing : String → Except Exn (List (String × String)))
  | selectLocation (now : Instant) (accountId locationId : String)
  | disconnect (now : Instant)
  /-- `google_backfill` or `google_sync`, the route.  `Queue` is what the job then becomes. -/
  | enqueue
  /-- `google_backfill` or `google_sync`, the job. -/
  | ingest (mode : Mode) (env : IngestEnv)

/-- What an event is replied with. -/
inductive ConnectionReply where
  | failed (exc : Exn)
  | status (payload : GoogleStatusPayload)
  /-- `{"connected": …}` -/
  | connected (connected : Bool)
  | listed (entries : List (String × String))
  | queued
  | ended (result : IngestResult)
  deriving DecidableEq

/-- The response of a call, or its exception. -/
def ConnectionReply.of {α : Type} (reply : α → ConnectionReply) : Except Exn α → ConnectionReply
  | .error exc => .failed exc
  | .ok result => reply result

/-- An event over the store. -/
def ConnectionEvent.serve (store : Store) : ConnectionEvent → ConnectionReply × Store
  | .status => (.status (GoogleConnectionService.status store), store)
  | .complete now answer =>
      let (result, credentials) := GoogleConnectionService.complete now answer store.credentials
      (.of (fun _ => .connected true) result, { store with credentials })
  | .discover now answer listing =>
      let (result, credentials) := GoogleConnectionService.discover now answer listing store.credentials
      (.of .listed result, { store with credentials })
  | .selectLocation now accountId locationId =>
      let (result, credentials) :=
        GoogleConnectionService.selectLocation now accountId locationId store.credentials
      let store := { store with credentials }
      (.of (fun _ => .status (GoogleConnectionService.status store)) result, store)
  | .disconnect now =>
      (.connected false,
        { store with credentials := GoogleConnectionService.disconnect now store.credentials })
  | .enqueue => (.of (fun _ => .queued) (GoogleConnectionService.ensureConnected store.credentials), store)
  | .ingest mode env =>
      let (result, store) := Jobs.ingestJob env mode store
      (.ended result, store)

/-- Nothing connected, over any reviews and sync runs. -/
def Store.unconnected (db : Database) : Store := ⟨∅, db⟩

end ReviewSignal
