import ReviewSignal.Services.IngestionWalk

/-!
# Does a backfill converge to its source?

After a successful backfill every delivered review agrees with its row on the six columns `upsert`
compares.  The row stores three more columns of the review, and those follow other rules: the
update path never writes `created_at` and `language`, and the unchanged path does not refresh
`raw_payload`.

**When it does** (`backfill_mirrors_iff`).  The rows of all delivered reviews mirror them in every column
exactly when each row the store had before for one of them was `Refreshable`: it had the delivered
`created_at` and `language`, and, where `upsert` finds nothing to change, the delivered payload.  The
condition is one on the store before the run and on what is delivered, so it can be read off before.

**When it does not** (`reseed_keeps_created_at`).  The stub corpus is seeded against another clock, which is
what the seeding tool is run twice for: the rows get the new `updated_at` and keep the old `created_at`.

The delivered ids are distinct here; of one that is delivered twice the later review would win, and that is
no longer a question of what the update path writes.
-/

namespace ReviewSignal

open ReviewRepository

/-- A row agrees with a review on every field it stores of it. -/
structure Mirrors (row : Review) (review : NormalizedReview) : Prop extends Agrees row review where
  createdAt : row.createdAt = review.createdAt
  language : row.language = review.language
  rawPayload : row.rawPayload = review.rawPayload

/-- What an upsert does not repair of a row. -/
structure Refreshable (existing : Review) (review : NormalizedReview) : Prop where
  createdAt : existing.createdAt = review.createdAt
  language : existing.language = review.language
  /-- The unchanged path keeps the old payload. -/
  rawPayload : Agrees existing review → existing.rawPayload = review.rawPayload

variable {source : String} {review : NormalizedReview} {existing : Review}

theorem mirrors_createdRow : Mirrors (createdRow source review) review :=
  ⟨agrees_createdRow, rfl, rfl, rfl⟩

/-- The row an upsert leaves mirrors the review exactly when the old row was refreshable. -/
theorem mirrors_upsertRow_iff :
    Mirrors (upsertRow source review (some existing)) review ↔ Refreshable existing review := by
  by_cases h : Agrees existing review
  · rw [upsertRow_of_agrees h]
    constructor
    · rintro ⟨-, hcreated, hlanguage, hpayload⟩
      exact ⟨hcreated, hlanguage, fun _ => hpayload⟩
    · rintro ⟨hcreated, hlanguage, hpayload⟩
      exact ⟨h, hcreated, hlanguage, hpayload h⟩
  · rw [upsertRow, if_pos (by rwa [← not_changed_iff, not_not] at h)]
    constructor
    · rintro ⟨-, hcreated, hlanguage, -⟩
      exact ⟨hcreated, hlanguage, fun hagree => absurd hagree h⟩
    · rintro ⟨hcreated, hlanguage, -⟩
      exact ⟨agrees_updatedRow, hcreated, hlanguage, rfl⟩

/-- **When a backfill converges.**  The rows of the delivered reviews mirror them exactly when every
row the store already had for one of them was refreshable. -/
theorem backfill_mirrors_iff (env : RunEnv) (db : Database) {walk : List ReviewPage}
    {outcome : IngestionOutcome} (hwalk : IsWalk env.adapter walk)
    (hnodup : ((listed walk).map (·.sourceReviewId)).Nodup)
    (hreturned : (ingest env .backfill db).1 = .returned outcome) :
    (∀ review ∈ listed walk, ∃ row,
        (ingest env .backfill db).2.reviews.lookup review.sourceReviewId = some row ∧
        Mirrors row review) ↔
      ∀ review ∈ listed walk, ∀ existing,
        db.reviews.lookup review.sourceReviewId = some existing → Refreshable existing review := by
  have hlookup : ∀ review ∈ listed walk,
      (ingest env .backfill db).2.reviews.lookup review.sourceReviewId
        = some (upsertRow env.adapter.source review
            (db.reviews.lookup review.sourceReviewId)) := by
    intro review hmem
    rw [reviews_of_returned hwalk hreturned, Mode.stopAt, reached_none]
    exact lookup_storeAll_of_mem (injOn_of_nodup hnodup) hmem
  refine forall₂_congr fun review hmem => ?_
  rw [hlookup review hmem]
  cases hold : db.reviews.lookup review.sourceReviewId with
  | none =>
      constructor
      · intro _ existing hexisting
        cases hexisting
      · intro _
        exact ⟨_, rfl, mirrors_createdRow⟩
  | some existing =>
      constructor
      · rintro ⟨row, hrow, hmirrors⟩ old hold
        cases hrow
        cases hold
        exact mirrors_upsertRow_iff.mp hmirrors
      · intro h
        exact ⟨_, rfl, mirrors_upsertRow_iff.mpr (h existing rfl)⟩

/-- A source that lists its reviews on one page. -/
def listsAll (reviews : List NormalizedReview) (now : Instant) : RunEnv :=
  RunEnv.steady (servePages "stub" ⟨reviews, none, 0⟩ []) now

/-- The store after a backfill of two reviews. -/
def seededPair : Database :=
  (ingest (listsAll [plainReview "a" (some "Sharp prints.") 10, plainReview "b" none 12] 20) .backfill
    .empty).2

/-- Later the text of the one is another, the other is as it was, and there is a third. -/
def editedPair : List NormalizedReview :=
  [plainReview "c" none 31, plainReview "a" (some "Blurred prints.") 30, plainReview "b" none 12]

theorem backfill_mirrors_iff_editedPair :
    seededPair.reviews.keys = {"a", "b"} ∧
    ((∀ review ∈ listed [⟨editedPair, none, 0⟩], ∃ row,
        (ingest (listsAll editedPair 40) .backfill seededPair).2.reviews.lookup review.sourceReviewId
          = some row ∧ Mirrors row review) ↔
      ∀ review ∈ listed [⟨editedPair, none, 0⟩], ∀ existing,
        seededPair.reviews.lookup review.sourceReviewId = some existing → Refreshable existing review) :=
  have hreturned : (ingest (listsAll editedPair 40) .backfill seededPair).1 = .returned ⟨3, 1, 1, 1, 0⟩ := by
    decide
  ⟨by decide, backfill_mirrors_iff (listsAll editedPair 40) seededPair (by decide) (by decide) hreturned⟩

/-- One synthetic review, made against a clock. -/
def seedOnce (now : Instant) : RunEnv :=
  listsAll [{ plainReview "stub-1" (some "Sharp prints.") now with createdAt := now }] now

/-- Re-seeding against a later clock succeeds and leaves the old `created_at`. -/
theorem reseed_keeps_created_at :
    let db := (ingest (seedOnce 10) .backfill .empty).2
    let review := { plainReview "stub-1" (some "Sharp prints.") 900 with createdAt := 900 }
    (ingest (seedOnce 900) .backfill db).1 = .returned ⟨1, 0, 1, 0, 0⟩ ∧
      ∃ row, (ingest (seedOnce 900) .backfill db).2.reviews.lookup "stub-1" = some row ∧
        row.updatedAt = 900 ∧ row.createdAt = 10 ∧ ¬ Mirrors row review := by
  refine ⟨by decide, _, rfl, by decide, by decide, ?_⟩
  rintro ⟨-, hcreated, -⟩
  exact absurd hcreated (by decide)

end ReviewSignal
