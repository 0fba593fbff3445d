import ReviewSignal.Ingestion.Conservation

/-!
# A second backfill over the same pages

**What it does** (`backfill_idempotent`): it creates nothing, updates nothing, counts every listed review as
unchanged, and leaves the table as it is.  The table before the first run is arbitrary; the second run may
see another clock and even name another source.

**Why.**  After a backfill every delivered review agrees with its row on the columns `upsert` compares
(`lookup_storeAll_of_mem`, `agrees_upsertRow`), and a call whose review agrees leaves the table as it is.
So the second backfill is a list of calls that report no change (`outcomes_storeAll_self`), and it keeps
even the columns `upsert` does not compare: `raw_payload`, `created_at`, `language` and `analysis_status`.

An id may be listed twice if it is the same review both times.  Two different reviews under one id would
take turns in its row on every run.  Both runs are ones that return: what a run leaves that does not is the
subject of `Retry`.
-/

namespace ReviewSignal

open ReviewRepository

variable {source : String} {table : ReviewTable} {reviews : List NormalizedReview}

/-- Calls that all report no change leave the table as it was. -/
theorem storeAll_of_unchanged
    (h : ∀ outcome ∈ outcomes source reviews table, outcome = .unchanged) :
    storeAll source reviews table = table := by
  induction reviews with
  | nil => rfl
  | cons review reviews ih =>
      rw [outcomes_cons, List.forall_mem_cons] at h
      rw [storeAll_cons, upsert_table_of_unchanged h.1]
      rw [upsert_table_of_unchanged h.1] at h
      exact ih h.2

/-- Upserting a list again reports no change, whatever source the second time names. -/
theorem outcomes_storeAll_self (source' : String)
    (hinj : Set.InjOn (·.sourceReviewId) {r | r ∈ reviews}) :
    ∀ outcome ∈ outcomes source' reviews (storeAll source reviews table), outcome = .unchanged := by
  rw [outcomes_unchanged_iff]
  intro review hmem
  exact ⟨_, lookup_storeAll_of_mem hinj hmem, agrees_upsertRow _⟩

/-- **Backfill is idempotent.**  The table before the first run is arbitrary.  The second run may see
another clock and name another source; it delivers the same pages. -/
theorem backfill_idempotent (first second : RunEnv) (db : Database) {walk : List ReviewPage}
    {outcome₁ outcome₂ : IngestionOutcome} (hfirst : IsWalk first.adapter walk)
    (hsecond : IsWalk second.adapter walk)
    (hsame : ∀ r ∈ listed walk, ∀ r' ∈ listed walk, r.sourceReviewId = r'.sourceReviewId → r = r')
    (hreturned₁ : (ingest first .backfill db).1 = .returned outcome₁)
    (hreturned₂ : (ingest second .backfill (ingest first .backfill db).2).1 = .returned outcome₂) :
    outcome₂.created = 0 ∧ outcome₂.updated = 0 ∧ outcome₂.unchanged = (listed walk).length ∧
      (ingest second .backfill (ingest first .backfill db).2).2.reviews
        = (ingest first .backfill db).2.reviews := by
  have hinj : Set.InjOn (·.sourceReviewId) {r | r ∈ listed walk} :=
    fun r hr r' hr' heq => hsame r hr r' hr' heq
  have hstored : (ingest first .backfill db).2.reviews
      = storeAll first.adapter.source (listed walk) db.reviews := by
    rw [reviews_of_returned hfirst hreturned₁, Mode.stopAt, reached_none]
  have hquiet : ∀ outcome ∈ outcomes second.adapter.source (listed walk)
      (ingest first .backfill db).2.reviews, outcome = .unchanged := by
    rw [hstored]
    exact outcomes_storeAll_self second.adapter.source hinj
  obtain ⟨f, hflow, hstop, houtcome, -⟩ := ingest_returned hreturned₂
  have hdelivered : delivered none f.pages = listed walk := by
    rw [hflow] at hstop ⊢
    exact (delivered_of_stop_none hsecond hstop).trans (reached_none _)
  have hcount : (outcomes second.adapter.source (listed walk)
      (ingest first .backfill db).2.reviews).count .unchanged = (listed walk).length := by
    rw [List.count_eq_length.mpr fun outcome hmem => (hquiet outcome hmem).symm, length_outcomes]
  have hunchanged : outcome₂.unchanged = (listed walk).length := by
    rw [houtcome, Mode.stopAt, hdelivered]
    exact hcount
  have htotal : outcome₂.created + outcome₂.updated + outcome₂.unchanged = (listed walk).length := by
    rw [houtcome, Mode.stopAt, hdelivered]
    exact (count_outcomes _).trans (length_outcomes (listed walk) _)
  refine ⟨by omega, by omega, hunchanged, ?_⟩
  rw [reviews_of_returned hsecond hreturned₂, Mode.stopAt, reached_none]
  exact storeAll_of_unchanged hquiet

/-- One page with one review twice, read at an instant. -/
def readTwice (started : Instant) : RunEnv :=
  RunEnv.steady (servePages "google"
    ⟨[plainReview "a" (some "Sharp prints.") 40, plainReview "a" (some "Sharp prints.") 40], none, 1⟩
    []) started

/-- The pages it reads. -/
def pageTwice : List ReviewPage :=
  [⟨[plainReview "a" (some "Sharp prints.") 40, plainReview "a" (some "Sharp prints.") 40], none, 1⟩]

/-- A store whose only review was analysed, and edited since. -/
def analysedStore : Database :=
  ⟨Finmap.singleton "a" { createdRow "google" (plainReview "a" (some "Prints.") 30) with
    analysisStatus := .analyzed }, []⟩

theorem backfill_idempotent_after_edit :
    let stored := (ingest (readTwice 50) .backfill analysedStore).2
    ∃ outcome, (ingest (readTwice 60) .backfill stored).1 = .returned outcome ∧
      outcome.created = 0 ∧ outcome.updated = 0 ∧ outcome.unchanged = (listed pageTwice).length ∧
      (ingest (readTwice 60) .backfill stored).2.reviews = stored.reviews := by
  have hwalk₁ : IsWalk (readTwice 50).adapter pageTwice := by decide
  have hwalk₂ : IsWalk (readTwice 60).adapter pageTwice := by decide
  have hreturned₁ : (ingest (readTwice 50) .backfill analysedStore).1 = .returned ⟨3, 0, 1, 1, 1⟩ := by
    decide
  have hreturned₂ : (ingest (readTwice 60) .backfill
      (ingest (readTwice 50) .backfill analysedStore).2).1 = .returned ⟨3, 0, 0, 2, 1⟩ := by
    decide
  exact ⟨_, hreturned₂, backfill_idempotent (readTwice 50) (readTwice 60) analysedStore hwalk₁ hwalk₂
    (by decide) hreturned₁ hreturned₂⟩

end ReviewSignal
