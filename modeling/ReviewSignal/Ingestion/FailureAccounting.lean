import ReviewSignal.Ingestion.PageAtomicity

/-!
# What `_fail` records

The counters of a run live in memory and advance with every upsert; the rows go with the page that
is rolled back.  So the row `_fail` leaves counts the reviews of the interrupted page that no longer
exist.

**When the two agree** (`fail_truthful_iff`).  The row tells the truth (`TruthfulRow`: its counts are those of
the pages that are stored, and its status is `partial` just when they created or updated something) exactly
when the reviews already upserted on the interrupted page had all been stored, in agreement, before that page.
A run that raises at a fetch has no such reviews and always accounts truthfully; one that raises at an upsert
or a commit does so only if it met nothing new.

**When they do not** (`fail_counts_rolled_back_review`).  The second upsert of the first page raises: the
row is `partial` with one creation, over a table that is empty.

The statement is about a run that raises at a place of the page loop.  A run that raises before it, or whose
`_fail` cannot commit either, leaves no terminal row, and there is nothing to compare.
-/

namespace ReviewSignal

open IngestionService ReviewRepository

/-- The reviews of the page in flight that a run raising at a point had already upserted. -/
def interrupted (adapter : ReviewSourceAdapter) (stopAt : Option Instant) :
    Point → List NormalizedReview
  | .upsert page index =>
      (nthPage adapter 0 none page).elim [] fun p => (reached stopAt p.reviews).take index
  | .commit page => (nthPage adapter 0 none page).elim [] fun p => reached stopAt p.reviews
  | _ => []

/-- The outcomes of the first `k` pages of a run over `table`. -/
def committedOutcomes (adapter : ReviewSourceAdapter) (stopAt : Option Instant) (k : ℕ)
    (table : ReviewTable) : List UpsertOutcome :=
  outcomes adapter.source (delivered stopAt (iterPages adapter 0 none k)) table

/-- The row of a failed run that committed `k` pages tells what it left in `reviews`. -/
structure TruthfulRow (adapter : ReviewSourceAdapter) (stopAt : Option Instant)
    (db db' : Database) (k : ℕ) (row : SyncRun) : Prop where
  /-- The rows the run added that are still there. -/
  created : row.reviewsCreated = (db'.reviews.keys \ db.reviews.keys).card
  /-- The update outcomes on committed pages. -/
  updated : row.reviewsUpdated = (committedOutcomes adapter stopAt k db.reviews).count .updated
  /-- `partial` when something the run created or updated is still stored. -/
  status : row.status = if ∃ outcome ∈ committedOutcomes adapter stopAt k db.reviews,
    outcome ≠ .unchanged then .partially else .failed

instance (adapter : ReviewSourceAdapter) (stopAt : Option Instant) (db db' : Database) (k : ℕ)
    (row : SyncRun) : Decidable (TruthfulRow adapter stopAt db db' k row) :=
  decidable_of_iff
    (row.reviewsCreated = (db'.reviews.keys \ db.reviews.keys).card ∧
      row.reviewsUpdated = (committedOutcomes adapter stopAt k db.reviews).count .updated ∧
      row.status = if ∃ outcome ∈ committedOutcomes adapter stopAt k db.reviews,
        outcome ≠ .unchanged then .partially else .failed)
    ⟨fun h => ⟨h.1, h.2.1, h.2.2⟩, fun h => ⟨h.created, h.updated, h.status⟩⟩

/-- A list of outcomes changed nothing exactly when it counts no creation and no update. -/
theorem unchanged_iff_count {l : List UpsertOutcome} :
    (∀ outcome ∈ l, outcome = .unchanged) ↔ l.count .created = 0 ∧ l.count .updated = 0 := by
  rw [List.count_eq_zero, List.count_eq_zero]
  constructor
  · intro h
    exact ⟨fun hmem => absurd (h _ hmem) (by decide), fun hmem => absurd (h _ hmem) (by decide)⟩
  · rintro ⟨hcreated, hupdated⟩ outcome hmem
    cases outcome with
    | created => exact absurd hmem hcreated
    | updated => exact absurd hmem hupdated
    | unchanged => rfl

/-- `stored_anything`, from the outcomes behind the counters. -/
theorem storedAnything_outcomeOf {source : String} {seen : List ReviewPage}
    {upserted : List NormalizedReview} {table : ReviewTable} :
    (outcomeOf source seen upserted table).storedAnything = true ↔
      ∃ outcome ∈ outcomes source upserted table, outcome ≠ .unchanged := by
  rw [IngestionOutcome.storedAnything, decide_eq_true_iff, ← not_iff_not]
  simp only [not_or, not_exists, not_and, not_not]
  exact unchanged_iff_count.symm

/-- The page in flight of a run that raised at a point. -/
theorem interrupted_of_raisedAt {adapter : ReviewSourceAdapter} {stopAt : Option Instant} {k : ℕ}
    {point : Point} {inFlight : Option (ReviewPage × List NormalizedReview)}
    (h : RaisedAt adapter stopAt 0 none k point inFlight) :
    point.page? = some k ∧ interrupted adapter stopAt point = (inFlight.map (·.2)).getD [] := by
  cases h with
  | fetch => exact ⟨by rw [Nat.zero_add]; rfl, rfl⟩
  | upsert page index hpage =>
      rw [Nat.zero_add]
      exact ⟨rfl, by rw [interrupted, hpage]; rfl⟩
  | commit page hpage =>
      rw [Nat.zero_add]
      exact ⟨rfl, by rw [interrupted, hpage]; rfl⟩

/-- The counters and the store agree exactly when the interrupted page changed nothing. -/
theorem truthfulRow_iff {adapter : ReviewSourceAdapter} {stopAt : Option Instant} {db db' : Database}
    {k : ℕ} {row : SyncRun} (seen : List ReviewPage) (rest : List NormalizedReview)
    (hreviews : db'.reviews
      = storeAll adapter.source (delivered stopAt (iterPages adapter 0 none k)) db.reviews)
    (hcounts : ∃ finishedAt errorMessage run, row = withOutcome (failStatus (outcomeOf adapter.source
        seen (delivered stopAt (iterPages adapter 0 none k) ++ rest) db.reviews)) finishedAt
      errorMessage (outcomeOf adapter.source seen
        (delivered stopAt (iterPages adapter 0 none k) ++ rest) db.reviews) run) :
    TruthfulRow adapter stopAt db db' k row ↔
      ∀ o ∈ outcomes adapter.source rest db'.reviews, o = .unchanged := by
  obtain ⟨finishedAt, errorMessage, run, rfl⟩ := hcounts
  have hsplit : outcomes adapter.source (delivered stopAt (iterPages adapter 0 none k) ++ rest)
      db.reviews = committedOutcomes adapter stopAt k db.reviews
        ++ outcomes adapter.source rest db'.reviews := by
    rw [outcomes_append, hreviews]
    rfl
  have hadded : (db'.reviews.keys \ db.reviews.keys).card
      = (committedOutcomes adapter stopAt k db.reviews).count .created := by
    rw [hreviews, card_added]
    rfl
  have hcreated := congrArg (List.count .created) hsplit
  have hupdated := congrArg (List.count .updated) hsplit
  rw [List.count_append] at hcreated hupdated
  constructor
  · rintro ⟨hc, hu, -⟩
    simp only [withOutcome, outcomeOf] at hc hu
    rw [unchanged_iff_count]
    omega
  · intro hquiet
    obtain ⟨hc, hu⟩ := unchanged_iff_count.mp hquiet
    refine ⟨?_, ?_, ?_⟩
    · simp only [withOutcome, outcomeOf]
      omega
    · simp only [withOutcome, outcomeOf]
      omega
    show failStatus _ = _
    rw [failStatus]
    refine if_congr ?_ rfl rfl
    rw [storedAnything_outcomeOf, hsplit]
    constructor
    · rintro ⟨o, hmem, hne⟩
      rcases List.mem_append.mp hmem with hmem | hmem
      · exact ⟨o, hmem, hne⟩
      · exact absurd (hquiet o hmem) hne
    · rintro ⟨o, hmem, hne⟩
      exact ⟨o, List.mem_append_left _ hmem, hne⟩

/-- **When `_fail` tells the truth.**  A run that raises on page `k` leaves a truthful row exactly
when every review of that page upserted before the raise had an agreeing row in the store of the
pages before it. -/
theorem fail_truthful_iff (env : RunEnv) (mode : Mode) (db : Database) {error : Raised} {k : ℕ}
    (hraised : (ingest env mode db).1 = .raised error) (hpoint : error.point.page? = some k) :
    ∃ row, (ingest env mode db).2.syncRuns = db.syncRuns ++ [row] ∧
      (TruthfulRow env.adapter (mode.stopAt env.adapter.source db) db (ingest env mode db).2 k row ↔
        ∀ review ∈ interrupted env.adapter (mode.stopAt env.adapter.source db) error.point,
          ∃ stored, (applyPages env.adapter.source (mode.stopAt env.adapter.source db)
              (iterPages env.adapter 0 none k) db.reviews).lookup review.sourceReviewId = some stored ∧
            Agrees stored review) := by
  have hverdict := recorded_of_raised hraised hpoint
  have hspec := verdict_spec env mode (mode.stopAt env.adapter.source db)
  rw [hverdict] at hspec
  rw [ingest_eq, hverdict]
  generalize mode.stopAt env.adapter.source db = stopAt at *
  obtain ⟨hpage, hinterrupted⟩ := interrupted_of_raisedAt (raisedAt_flow hspec)
  obtain rfl : k = _ := Option.some.inj (hpoint.symm.trans hpage)
  have hpages := pages_flow env stopAt env.lifetime 0 none
  have hreviews : (settle env stopAt db (.recorded error)).2.reviews
      = storeAll env.adapter.source (delivered stopAt (iterPages env.adapter 0 none
          (flow env stopAt env.lifetime 0 none).pages.length)) db.reviews := by
    rw [hpages]
    rfl
  refine ⟨_, rfl, ?_⟩
  rw [truthfulRow_iff (flow env stopAt env.lifetime 0 none).seen
    (interrupted env.adapter stopAt error.point) hreviews, outcomes_unchanged_iff, hreviews,
    storeAll_delivered]
  rw [hpages, hinterrupted]
  exact ⟨_, _, _, rfl⟩

theorem fail_truthful_iff_interrupted :
    ∃ row, (ingest interruptedBackfill .backfill .empty).2.syncRuns = [row] ∧
      (TruthfulRow interruptedBackfill.adapter none .empty
          (ingest interruptedBackfill .backfill .empty).2 1 row ↔
        ∀ review ∈ interrupted interruptedBackfill.adapter none (.upsert 1 1),
          ∃ stored, (applyPages "google" none (iterPages interruptedBackfill.adapter 0 none 1)
              ∅).lookup review.sourceReviewId = some stored ∧ Agrees stored review) := by
  have hraised : (ingest interruptedBackfill .backfill .empty).1
      = .raised ⟨.upsert 1 1, ⟨"OperationalError", "server closed the connection"⟩⟩ := by
    decide
  exact fail_truthful_iff interruptedBackfill .backfill .empty hraised rfl

/-- The row left by a backfill whose only page is interrupted after its first new review: it
counts a creation and is `partial`, over a store that has no review at all. -/
theorem fail_counts_rolled_back_review :
    let env := (RunEnv.steady (servePages "google"
      ⟨[plainReview "a" none 40, plainReview "b" none 30], none, 0⟩ []) 50).withFate
        (.upsert 0 1) (.raises ⟨"OperationalError", "server closed the connection"⟩)
    let db := (ingest env .backfill .empty).2
    db.reviews = ∅ ∧ ∃ row, db.syncRuns = [row] ∧ row.status = .partially ∧
      row.reviewsCreated = 1 ∧ ¬ TruthfulRow env.adapter none .empty db 0 row := by
  refine ⟨by decide, _, rfl, by decide⟩

end ReviewSignal
