import ReviewSignal.Services.IngestionWalk

/-!
# Page atomicity and resumption

**What a run leaves** (`ingest_applies_whole_pages`).  Wherever a run raises or dies, the store holds whole
pages: the first `k` pages of the walk, in order, and nothing of the page after them.  The cursor committed
with them is the cursor of the last one, and the walk from it yields exactly the pages not applied.

**Why it is stated so.**  `AppliedPages` speaks of the table and of the saved cursor together, because
neither says much alone: a whole number of pages with a cursor of another page would be resumed in the
wrong place.  The environment decides where the run raises or dies, so one statement over all environments
covers every query, flush, commit and fetch, and the process ending between any two of them.

The adapter looks at the cursor only (`ByCursor`), as Google's does; for one that counts its calls the walk
from a cursor would depend on how it was reached.  Nothing in the code resumes from the saved cursor, so
that part is a fact about what is stored and not about a later run.
-/

namespace ReviewSignal

open IngestionService ReviewRepository

/-- The store after whole pages, each up to the watermark. -/
def applyPages (source : String) (stopAt : Option Instant) (pages : List ReviewPage)
    (table : ReviewTable) : ReviewTable :=
  pages.foldl (fun table page => storeAll source (reached stopAt page.reviews) table) table

/-- The cursor a run over `db` committed, when it left `db'`.  The run's row is the one after all
the rows of `db`; a run that never committed one has no cursor either. -/
def committedCursor (db db' : Database) : Option Json :=
  db'.syncRuns[db.syncRuns.length]?.bind (·.cursorState)

theorem storeAll_delivered {source : String} {stopAt : Option Instant} {pages : List ReviewPage}
    {table : ReviewTable} :
    storeAll source (delivered stopAt pages) table = applyPages source stopAt pages table := by
  induction pages generalizing table with
  | nil => rfl
  | cons page pages ih => rw [delivered_cons, storeAll_append, ih]; rfl

/-- The first `k` pages are applied, and the committed cursor resumes after them. -/
structure AppliedPages (adapter : ReviewSourceAdapter) (stopAt : Option Instant)
    (db db' : Database) (k : ℕ) : Prop where
  /-- The walk has these `k` pages. -/
  walked : (iterPages adapter 0 none k).length = k
  reviews : db'.reviews = applyPages adapter.source stopAt (iterPages adapter 0 none k) db.reviews
  cursor_of_zero : k = 0 → committedCursor db db' = none
  cursor_of_pos : 0 < k → ∃ last, (iterPages adapter 0 none k).getLast? = some last ∧
    committedCursor db db' = some (.obj [("next_cursor", .ofOption last.nextCursor)]) ∧
    ∀ next, last.nextCursor = some next → ∀ m,
      iterPages adapter 0 (some next) m = (iterPages adapter 0 none (k + m)).drop k

/-- **Page atomicity.**  Whatever a run leaves is what storing some first pages of the source leaves, each of
them whole, with the cursor of the last one.  `env` decides where the run raises or dies. -/
theorem ingest_applies_whole_pages (env : RunEnv) (hcursor : env.adapter.ByCursor) (mode : Mode)
    (db : Database) :
    ∃ k, AppliedPages env.adapter (mode.stopAt env.adapter.source db) db (ingest env mode db).2 k := by
  rcases ingest_left env mode db with ⟨hleft, -⟩ | ⟨row, hleft, hrow⟩
  · -- nothing was committed
    refine ⟨0, rfl, by rw [hleft]; rfl, fun _ => ?_, fun h => absurd h (lt_irrefl 0)⟩
    rw [hleft, committedCursor, List.getElem?_eq_none le_rfl]
    rfl
  · have hpages := pages_flow env (mode.stopAt env.adapter.source db) env.lifetime 0 none
    have hcommitted : committedCursor db (ingest env mode db).2
        = (flow env (mode.stopAt env.adapter.source db) env.lifetime 0 none).pages.getLast?.map
            cursorState := by
      rw [hleft, committedCursor, List.getElem?_concat_length]
      exact hrow.cursorState
    generalize flow env (mode.stopAt env.adapter.source db) env.lifetime 0 none = f at *
    refine ⟨f.pages.length, by rw [hpages], ?_, fun hk => ?_, fun hk => ?_⟩
    · rw [hleft, hpages]
      exact storeAll_delivered
    · rw [hcommitted, List.length_eq_zero_iff.mp hk]
      rfl
    · obtain ⟨last, hlast⟩ : ∃ last, f.pages.getLast? = some last :=
        ⟨_, List.getLast?_eq_some_getLast (List.ne_nil_of_length_pos hk)⟩
      refine ⟨last, by rw [hpages, hlast], by rw [hcommitted, hlast]; rfl, ?_⟩
      intro next hnext m
      rw [drop_iterPages (by rw [hpages]) (by rw [hpages, hlast]) hnext m]
      exact iterPages_of_byCursor hcursor _ _

/-- Two pages of which the second is interrupted after its first review. -/
def interruptedBackfill : RunEnv :=
  (RunEnv.steady (servePages "google"
    ⟨[plainReview "a" none 40, plainReview "b" none 30], some "p2", 0⟩
    [("p2", ⟨[plainReview "c" none 20, plainReview "d" none 10], none, 0⟩)]) 50).withFate
      (.upsert 1 1) (.raises ⟨"OperationalError", "server closed the connection"⟩)

theorem ingest_applies_whole_pages_interrupted :
    ∃ k, AppliedPages interruptedBackfill.adapter none .empty
      (ingest interruptedBackfill .backfill .empty).2 k :=
  ingest_applies_whole_pages interruptedBackfill (byCursor_servePages _ _ _) .backfill .empty

example : ((ingest interruptedBackfill .backfill .empty).2.reviews.keys = {"a", "b"}) ∧
    committedCursor .empty (ingest interruptedBackfill .backfill .empty).2
      = some (.obj [("next_cursor", .str "p2")]) := by
  decide

end ReviewSignal
