import ReviewSignal.Services.IngestionWalk

/-!
# Two sources in one table

`source_review_id` is unique across sources and `upsert` looks a review up by it alone.  So two
sources are isolated exactly as far as their ids are.

**What holds** (`source_isolation`), of a run of one source beside another source:

* it reads the same watermark and stops at the same review whatever the other source has;
* a row whose id it does not deliver stays as it is;
* and when the ids it delivers are none of the other source's, then it ends and leaves what it would without
  the other source (`Database.without`), with that source's rows put back.

**What does not** (`stub_seed_rewrites_google_row`).  A run that delivers an id another source holds rewrites
that row, in its text and its date and not in its source, and stores no review of its own.

The ids a run delivers are those of its whole walk and not only of the pages it came to, so the third part
asks a little more than it would have to.
-/

namespace ReviewSignal

open ReviewRepository

/-- The database without the reviews and sync runs of a source. -/
def Database.without (other : String) (db : Database) : Database where
  reviews := Keyed.filterRows (fun row => row.source ≠ other) db.reviews
  syncRuns := db.syncRuns.filter fun run => run.source ≠ other

/-- No review holds the id of a row of the source. -/
def Avoids (other : String) (table : ReviewTable) (reviews : List NormalizedReview) : Prop :=
  ∀ review ∈ reviews, ∀ row, table.lookup review.sourceReviewId = some row → row.source ≠ other

variable {source other : String} {table : ReviewTable} {reviews : List NormalizedReview}

theorem storeAll_without (hne : source ≠ other) (h : Avoids other table reviews) :
    Keyed.filterRows (fun row => row.source ≠ other) (storeAll source reviews table)
      = storeAll source reviews (Keyed.filterRows (fun row => row.source ≠ other) table) := by
  rw [storeAll_eq_putAll, storeAll_eq_putAll]
  refine Keyed.filterRows_putAll ?_ ?_
  · intro review stored hstored
    cases stored with
    | none => exact decide_eq_true hne
    | some existing =>
        rw [decide_eq_true_iff, source_upsertRow_some]
        exact of_decide_eq_true (hstored existing rfl)
  · intro review hmem row hrow
    exact decide_eq_true (h review hmem row hrow)

theorem outcomes_without (h : Avoids other table reviews) :
    outcomes source reviews (Keyed.filterRows (fun row => row.source ≠ other) table)
      = outcomes source reviews table := by
  refine outcomes_congr fun review hmem => ?_
  rw [Keyed.lookup_filterRows]
  cases hrow : table.lookup review.sourceReviewId with
  | none => rfl
  | some row => rw [Option.filter_some, if_pos (decide_eq_true (h review hmem row hrow))]

theorem outcomeOf_without (source : String) (seen : List ReviewPage)
    (h : Avoids other table reviews) :
    outcomeOf source seen reviews (Keyed.filterRows (fun row => row.source ≠ other) table)
      = outcomeOf source seen reviews table := by
  rw [outcomeOf, outcomeOf, outcomes_without h]

theorem stopAt_without (hne : source ≠ other) (mode : Mode) (db : Database) :
    mode.stopAt source (db.without other) = mode.stopAt source db := by
  cases mode with
  | backfill => rfl
  | incremental =>
      refine SyncRunRepository.watermark_filter _ fun run hrun => ?_
      rw [hrun]
      exact decide_eq_true hne

/-- A run's new row survives the removal of another source. -/
theorem syncRuns_without {runs : List SyncRun} {row : SyncRun} (hrow : row.source ≠ other) :
    (runs ++ [row]).filter (fun run => run.source ≠ other)
      = runs.filter (fun run => run.source ≠ other) ++ [row] := by
  simp [List.filter_append, hrow]

/-- The closed form of a run commutes with removing another source. -/
theorem settle_without {env : RunEnv} {stopAt : Option Instant} {db : Database}
    (hne : env.adapter.source ≠ other)
    (havoids : Avoids other db.reviews ((flow env stopAt env.lifetime 0 none).upserted stopAt))
    (v : Verdict) :
    (settle env stopAt (db.without other) v).1 = (settle env stopAt db v).1 ∧
    (settle env stopAt (db.without other) v).2 = (settle env stopAt db v).2.without other := by
  have hdelivered : Avoids other db.reviews
      (delivered stopAt (flow env stopAt env.lifetime 0 none).pages) :=
    fun review hmem => havoids review (List.mem_append_left _ hmem)
  have hreviews := storeAll_without hne hdelivered
  have houtcome := outcomeOf_without env.adapter.source
    (flow env stopAt env.lifetime 0 none).seen havoids
  cases v with
  | unstarted halt => exact ⟨rfl, rfl⟩
  | unfinished halt =>
      simp only [settle, Database.without, withCursor_eq]
      rw [hreviews, syncRuns_without (by exact hne)]
      exact ⟨trivial, rfl⟩
  | succeeded =>
      simp only [settle, Database.without, withCursor_eq, withOutcome]
      rw [hreviews, houtcome, syncRuns_without (by exact hne)]
      exact ⟨rfl, rfl⟩
  | recorded error =>
      simp only [settle, Database.without, withCursor_eq, withOutcome]
      rw [hreviews, houtcome, syncRuns_without (by exact hne)]
      exact ⟨trivial, rfl⟩

/-- **Source isolation.**  Take a run of one source, and another source.

The run reads the same watermark and stops at the same review whatever the other source has.  A row
whose id the run does not deliver stays as it is.  And when the run delivers no id of the other
source at all, it ends the same and leaves the same as over a store without the other source: same
counters, same sync run, same rows. -/
theorem source_isolation (env : RunEnv) (mode : Mode) (db : Database) {other : String}
    (hne : env.adapter.source ≠ other) :
    mode.stopAt env.adapter.source (db.without other) = mode.stopAt env.adapter.source db ∧
    (∀ id, (∀ review, Delivers env.adapter 0 none review → review.sourceReviewId ≠ id) →
      (ingest env mode db).2.reviews.lookup id = db.reviews.lookup id) ∧
    ((∀ review, Delivers env.adapter 0 none review → ∀ row,
        db.reviews.lookup review.sourceReviewId = some row → row.source ≠ other) →
      (ingest env mode (db.without other)).1 = (ingest env mode db).1 ∧
      (ingest env mode (db.without other)).2 = (ingest env mode db).2.without other) := by
  refine ⟨stopAt_without hne mode db, ?_, ?_⟩
  · intro id hfresh
    rcases ingest_left env mode db with ⟨hleft, -⟩ | ⟨run, hleft, -⟩
    · rw [hleft]
    · rw [hleft]
      refine lookup_storeAll_of_notMem fun hmem => ?_
      obtain ⟨review, hreview, hid⟩ := List.mem_map.mp hmem
      exact hfresh review
        (delivers_of_upserted _ _ _ _ _ review (List.mem_append_left _ hreview)) hid
  · intro hfresh
    rw [ingest_eq, ingest_eq, stopAt_without hne]
    exact settle_without hne
      (fun review hmem => hfresh review (delivers_of_upserted _ _ _ _ _ review hmem)) _

/-- One review of a source, listed in one page. -/
def listOne (source id : String) (text : Option String) (now : Instant) : RunEnv :=
  RunEnv.steady (servePages source ⟨[plainReview id text now], none, 0⟩ []) now

theorem source_isolation_stub_seed :
    let db := (ingest (listOne "google" "g-1" none 10) .backfill .empty).2
    Mode.incremental.stopAt "stub" (db.without "google") = Mode.incremental.stopAt "stub" db ∧
    (∀ id, (∀ review, Delivers (listOne "stub" "stub-1" none 20).adapter 0 none review →
        review.sourceReviewId ≠ id) →
      (ingest (listOne "stub" "stub-1" none 20) .incremental db).2.reviews.lookup id
        = db.reviews.lookup id) ∧
    ((∀ review, Delivers (listOne "stub" "stub-1" none 20).adapter 0 none review → ∀ row,
        db.reviews.lookup review.sourceReviewId = some row → row.source ≠ "google") →
      (ingest (listOne "stub" "stub-1" none 20) .incremental (db.without "google")).1
        = (ingest (listOne "stub" "stub-1" none 20) .incremental db).1 ∧
      (ingest (listOne "stub" "stub-1" none 20) .incremental (db.without "google")).2
        = (ingest (listOne "stub" "stub-1" none 20) .incremental db).2.without "google") :=
  source_isolation (listOne "stub" "stub-1" none 20) .incremental _ (by decide)

/-- A stub run that delivers the id of a google review rewrites the google row, and stores no
review of its own. -/
theorem stub_seed_rewrites_google_row :
    let db := (ingest (listOne "google" "r-1" (some "Fine.") 10) .backfill .empty).2
    let db' := (ingest (listOne "stub" "r-1" (some "Sharp prints.") 20) .backfill db).2
    (ingest (listOne "stub" "r-1" (some "Sharp prints.") 20) .backfill db).1
        = .returned ⟨1, 0, 1, 0, 0⟩ ∧
      (db.reviews.lookup "r-1").map (fun row => (row.source, row.reviewText))
        = some ("google", some "Fine.") ∧
      (db'.reviews.lookup "r-1").map (fun row => (row.source, row.reviewText))
        = some ("google", some "Sharp prints.") := by
  decide

end ReviewSignal
