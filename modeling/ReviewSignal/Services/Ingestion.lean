import ReviewSignal.Repositories.Reviews
import ReviewSignal.Repositories.SyncRuns

/-!
# Review ingestion orchestration

`IngestionService` of `services/ingestion.py`, function by function, as programs that may raise in
a process that may die.

* A `Session` holds the committed database and the uncommitted view of its transaction.  `commit`
  publishes the view, `rollback` discards it.
* Everything that can raise — a query, a flush, a commit, a page fetch — is a `Point` of the
  program: a line of the source with the loop counts around it.  What happens there is the
  environment's choice (`RunEnv.fate`), so a theorem about every environment is a theorem about
  every failure point.  A constraint violation is one of those choices: it raises at the statement
  that flushes the offending row.
* A process dies at a point, or after it has lived for `lifetime` page fetches.

An `UPDATE` or `INSERT` reaches PostgreSQL at the next query or commit (autoflush), so the raise of
the `i`-th upsert of a page comes after `i` upserts whose outcomes are already counted.
-/

namespace ReviewSignal

/-! ## The environment of a run

The places where something can go wrong, what does, and the clock. -/

/-- The places where a run can raise, or its process die. -/
inductive Point where
  | watermark
  | start
  | startCommit
  | fetch (page : ℕ)
  | upsert (page index : ℕ)
  | commit (page : ℕ)
  | finish
  | finishCommit
  | failRollback
  | failGet
  | failCommit
  deriving DecidableEq, Repr

/-- An exception and the point it came from, as a traceback shows it. -/
structure Raised where
  point : Point
  exc : Exn
  deriving DecidableEq, Repr

/-- The readings of `datetime.now(UTC)` a run makes: in `start`, in `finish`, and in `_fail`. -/
structure RunClock where
  started : Instant
  finished : Instant
  failed : Instant
  deriving DecidableEq

/-- Everything a run depends on besides the database. -/
structure RunEnv where
  adapter : ReviewSourceAdapter
  clock : RunClock
  fate : Point → Fate
  lifetime : ℕ

/-- An environment in which nothing goes wrong for three fetches. -/
def RunEnv.steady (adapter : ReviewSourceAdapter) (started : Instant) : RunEnv where
  adapter := adapter
  clock := ⟨started, started + 1, started + 1⟩
  fate _ := .proceeds
  lifetime := 3

/-- The same environment, but for one point. -/
def RunEnv.withFate (env : RunEnv) (point : Point) (fate : Fate) : RunEnv :=
  { env with fate := Function.update env.fate point fate }

/-! ## The state of a run

What a rollback undoes and what it does not. -/

/-- `IngestionOutcome`: the counts of one run. -/
structure IngestionOutcome where
  fetched : ℕ := 0
  created : ℕ := 0
  updated : ℕ := 0
  unchanged : ℕ := 0
  unmappable : ℕ := 0
  deriving DecidableEq, Repr

/-- `stored_anything` -/
def IngestionOutcome.storedAnything (outcome : IngestionOutcome) : Bool :=
  outcome.created ≠ 0 ∨ outcome.updated ≠ 0

/-- The `match` of `_absorb`. -/
def IngestionOutcome.count (outcome : IngestionOutcome) : UpsertOutcome → IngestionOutcome
  | .created => { outcome with created := outcome.created + 1 }
  | .updated => { outcome with updated := outcome.updated + 1 }
  | .unchanged => { outcome with unchanged := outcome.unchanged + 1 }

/-- The two additions at the head of the loop body of `_run`. -/
def IngestionOutcome.countPage (outcome : IngestionOutcome) (page : ReviewPage) :
    IngestionOutcome :=
  { outcome with
    unmappable := outcome.unmappable + page.unmappableCount
    fetched := outcome.fetched + (page.reviews.length + page.unmappableCount) }

/-- The committed database, and what the session's open transaction sees. -/
structure Session where
  committed : Database
  working : Database

/-- The session and the counters, which live in memory and survive a rollback. -/
structure RunState where
  session : Session
  outcome : IngestionOutcome

namespace RunState

def commit (s : RunState) : RunState :=
  { s with session := { s.session with committed := s.session.working } }

def rollback (s : RunState) : RunState :=
  { s with session := { s.session with working := s.session.committed } }

def setReviews (reviews : ReviewTable) (s : RunState) : RunState :=
  { s with session := { s.session with working := { s.session.working with reviews } } }

def setSyncRuns (syncRuns : List SyncRun) (s : RunState) : RunState :=
  { s with session := { s.session with working := { s.session.working with syncRuns } } }

def modifyRun (runId : ℕ) (f : SyncRun → SyncRun) (s : RunState) : RunState :=
  s.setSyncRuns (s.session.working.syncRuns.modify runId f)

def countPage (page : ReviewPage) (s : RunState) : RunState :=
  { s with outcome := s.outcome.countPage page }

/-- One upsert in the session, its outcome counted. -/
def upsert (source : String) (review : NormalizedReview) (s : RunState) : RunState :=
  let (result, reviews) := ReviewRepository.upsert source review s.session.working.reviews
  { s.setReviews reviews with outcome := s.outcome.count result }

end RunState

abbrev Ingest := Faulty Raised RunState

/-- Pass a point of the program. -/
def reach (env : RunEnv) (point : Point) : Ingest Unit :=
  match env.fate point with
  | .proceeds => pure ()
  | .raises exc => .raise ⟨point, exc⟩
  | .dies => .die

/-! ## `IngestionService`

In the order of the source; a point of the program stands before each call that can raise. -/

namespace IngestionService

/-- `stop_at is not None and review.updated_at <= stop_at` -/
def atOrBelow : Option Instant → NormalizedReview → Bool
  | none, _ => false
  | some stopAt, review => review.updatedAt ≤ stopAt

/-- `SyncRunRepository.start`: insert the row and flush.  The new row's key is its position. -/
def start (env : RunEnv) : Ingest ℕ := do
  reach env .start
  let runs ← .read (·.session.working.syncRuns)
  .modify (·.setSyncRuns (runs ++ [SyncRunRepository.startedRow env.adapter.source env.clock.started]))
  pure runs.length

/-- `self._session.commit()` -/
def commit (env : RunEnv) (point : Point) : Ingest Unit := do
  reach env point
  .modify RunState.commit

/-- One step of `iter_pages`: the `call`-th fetch of the run. -/
def fetchPage (env : RunEnv) (call : ℕ) (cursor : Option String) : Ingest ReviewPage := do
  reach env (.fetch call)
  match env.adapter.fetchPage call cursor with
  | .error exc => .raise ⟨.fetch call, exc⟩
  | .ok page => pure page

/-- `_absorb`, from the `index`-th review of the page on.  Returns true when the watermark ends the
walk. -/
def absorb (env : RunEnv) (stopAt : Option Instant) (call : ℕ) :
    ℕ → List NormalizedReview → Ingest Bool
  | _, [] => pure false
  | index, review :: reviews =>
      if atOrBelow stopAt review then pure true
      else do
        reach env (.upsert call index)
        .modify (·.upsert env.adapter.source review)
        absorb env stopAt call (index + 1) reviews

/-- `{"next_cursor": page.next_cursor}` -/
def cursorState (page : ReviewPage) : Json := .obj [("next_cursor", .ofOption page.nextCursor)]

/-- The `for page in iter_pages(self._adapter)` loop of `_run`, from the `call`-th fetch on. -/
def runPages (env : RunEnv) (stopAt : Option Instant) (runId : ℕ) :
    ℕ → ℕ → Option String → Ingest Unit
  | 0, _, _ => .die
  | lifetime + 1, call, cursor => do
      let page ← fetchPage env call cursor
      .modify (·.countPage page)
      let exhausted ← absorb env stopAt call 0 page.reviews
      .modify (·.modifyRun runId (SyncRunRepository.saveCursor (some (cursorState page))))
      commit env (.commit call)
      if exhausted then pure ()
      else
        match page.nextCursor with
        | none => pure ()
        | some next => runPages env stopAt runId lifetime (call + 1) (some next)

/-- `SyncRunRepository.finish` on the session's run, with the counters of the run. -/
def finishRun (env : RunEnv) (runId : ℕ) (status : SyncRunStatus) (errorMessage : Option String) :
    Ingest Unit := do
  let s ← .read id
  match s.session.working.syncRuns[runId]? with
  | none => pure ()
  | some run =>
      match SyncRunRepository.finish status env.clock.finished s.outcome.fetched s.outcome.created
          s.outcome.updated errorMessage run with
      | .error exc => .raise ⟨.finish, exc⟩
      | .ok run => .modify (·.modifyRun runId fun _ => run)

/-- `_finish` -/
def finish (env : RunEnv) (runId : ℕ) (status : SyncRunStatus) : Ingest Unit := do
  finishRun env runId status none
  commit env .finishCommit

/-- `_fail`: record the failure on its own transaction. -/
def fail (env : RunEnv) (runId : ℕ) (exc : Exn) : Ingest Unit := do
  reach env .failRollback
  .modify RunState.rollback
  reach env .failGet
  let s ← .read id
  match s.session.working.syncRuns[runId]? with
  | none => pure ()  -- "Sync run %s vanished while recording a failure"
  | some _ =>
      finishRun env runId (if s.outcome.storedAnything then .partially else .failed)
        (some exc.describe)
      .modify (·.modifyRun runId fun run => { run with finishedAt := some env.clock.failed })
      commit env .failCommit

/-- `_run` -/
def run (env : RunEnv) (stopAt : Option Instant) : Ingest IngestionOutcome := do
  let runId ← start env
  commit env .startCommit
  (runPages env stopAt runId env.lifetime 0 none).tryCatch fun raised => do
    fail env runId raised.exc
    .raise raised
  finish env runId .success
  .read (·.outcome)

/-- `backfill` -/
def backfill (env : RunEnv) : Ingest IngestionOutcome := run env none

/-- `incremental` -/
def incremental (env : RunEnv) : Ingest IngestionOutcome := do
  reach env .watermark
  let runs ← .read (·.session.working.syncRuns)
  run env (SyncRunRepository.watermark env.adapter.source runs)

end IngestionService

/-- The two ways to run the service. -/
inductive Mode where
  | backfill
  | incremental
  deriving DecidableEq, Repr

/-- One run on a fresh session over a database: how it ended and what it left committed. -/
def ingest (env : RunEnv) (mode : Mode) (db : Database) :
    Ended Raised IngestionOutcome × Database :=
  let service := match mode with
    | .backfill => IngestionService.backfill env
    | .incremental => IngestionService.incremental env
  let (ended, s) := service ⟨⟨db, db⟩, {}⟩
  (ended, s.session.committed)

/-- The `stop_at` a run of the mode passes to `_run`. -/
def Mode.stopAt (source : String) (db : Database) : Mode → Option Instant
  | .backfill => none
  | .incremental => SyncRunRepository.watermark source db.syncRuns

end ReviewSignal
