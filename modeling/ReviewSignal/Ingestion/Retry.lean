import ReviewSignal.Services.IngestionWalk

/-!
# Retrying an ingestion run

The job queue re-executes a failed ingestion from its first page.

**Retries are transparent** (`retries_transparent`).  Whatever prefixes the failed attempts committed, the
attempt that succeeds leaves the table a single uninterrupted run would have left; and every attempt stops
at the same review.

**Why.**  A failed attempt never moves the watermark (`watermark_of_not_returned`), which is read from the
successful rows alone; and a prefix of the listing upserted before is absorbed by upserting the whole of it
(`Keyed.putAll_prefix_absorb`).  The second is a fact about finite maps, and needs that an upsert after an
upsert of the same review is the same as one of them.

The attempts see the same listing, as a retry a few seconds later does, cut into pages in any way.  What a
change of the listing in between does to the store is what `SyncCompleteness` is about.  The `sync_runs`
rows of the failed attempts stay, and are no part of the statement.
-/

namespace ReviewSignal

open ReviewRepository

/-- The adapter lists these reviews of the source, in some page split. -/
def Lists (adapter : ReviewSourceAdapter) (source : String) (listing : List NormalizedReview) :
    Prop :=
  adapter.source = source ∧ ∃ walk, IsWalk adapter walk ∧ listed walk = listing

/-- The database after some attempts, each on what the one before it left. -/
def afterAttempts (mode : Mode) : List RunEnv → Database → Database
  | [], db => db
  | env :: envs, db => afterAttempts mode envs (ingest env mode db).2

/-- None of the attempts succeeds. -/
def AllFail (mode : Mode) : List RunEnv → Database → Prop
  | [], _ => True
  | env :: envs, db =>
      (∀ outcome, (ingest env mode db).1 ≠ .returned outcome) ∧ AllFail mode envs (ingest env mode db).2

variable {mode : Mode} {source : String} {listing : List NormalizedReview} {db : Database}
  {env : RunEnv} {attempts : List RunEnv}

theorem stopAt_of_not_returned (h : ∀ outcome, (ingest env mode db).1 ≠ .returned outcome) :
    mode.stopAt source (ingest env mode db).2 = mode.stopAt source db := by
  cases mode with
  | backfill => rfl
  | incremental => exact watermark_of_not_returned h source

/-- One failed attempt is invisible to the run that upserts all the listing has above the
watermark. -/
theorem storeAll_after_failure
    (hnodup : (listing.map (·.sourceReviewId)).Nodup) (hlists : Lists env.adapter source listing)
    (mode : Mode) (db : Database) :
    storeAll source (reached (mode.stopAt source db) listing) (ingest env mode db).2.reviews
      = storeAll source (reached (mode.stopAt source db) listing) db.reviews := by
  obtain ⟨rfl, walk, hwalk, rfl⟩ := hlists
  obtain ⟨stored, ⟨rest, hrest⟩, hreviews⟩ := exists_stored hwalk mode db
  have hinj : Set.InjOn (·.sourceReviewId) {r | r ∈ stored ++ rest} := by
    have hsub : stored ++ rest <+: listed walk := hrest ▸ List.takeWhile_prefix _
    exact (injOn_of_nodup hnodup).mono fun r hr => hsub.subset hr
  rw [hreviews, ← hrest, storeAll_eq_putAll, storeAll_eq_putAll, storeAll_eq_putAll]
  exact Keyed.putAll_prefix_absorb absorbing_upsertRow hinj

/-- The invariant of a run of failed attempts: the watermark stands, and so does the table the
successful run will leave.  The induction is on the attempts. -/
theorem afterAttempts_spec (hnodup : (listing.map (·.sourceReviewId)).Nodup)
    (hlists : ∀ env ∈ attempts, Lists env.adapter source listing)
    (hfail : AllFail mode attempts db) :
    mode.stopAt source (afterAttempts mode attempts db) = mode.stopAt source db ∧
    storeAll source (reached (mode.stopAt source db) listing) (afterAttempts mode attempts db).reviews
      = storeAll source (reached (mode.stopAt source db) listing) db.reviews := by
  induction attempts generalizing db with
  | nil => exact ⟨rfl, rfl⟩
  | cons env attempts ih =>
      obtain ⟨hne, hrest⟩ := hfail
      have hstop : mode.stopAt source (ingest env mode db).2 = mode.stopAt source db :=
        stopAt_of_not_returned hne
      have htable := storeAll_after_failure hnodup (hlists env List.mem_cons_self) mode db
      obtain ⟨ih₁, ih₂⟩ := ih (fun e he => hlists e (List.mem_cons_of_mem _ he)) hrest
      rw [hstop] at ih₁ ih₂
      exact ⟨ih₁, ih₂.trans htable⟩

theorem allFail_take (hfail : AllFail mode attempts db) (n : ℕ) :
    AllFail mode (attempts.take n) db := by
  induction attempts generalizing db n with
  | nil => rw [List.take_nil]; trivial
  | cons env attempts ih =>
      cases n with
      | zero => trivial
      | succ n => exact ⟨hfail.1, ih hfail.2 n⟩

/-- A successful run over a listing upserts all the listing has above its watermark. -/
theorem reviews_of_lists (hlists : Lists env.adapter source listing) {outcome : IngestionOutcome}
    (h : (ingest env mode db).1 = .returned outcome) : (ingest env mode db).2.reviews
      = storeAll source (reached (mode.stopAt source db) listing) db.reviews := by
  obtain ⟨rfl, walk, hwalk, rfl⟩ := hlists
  exact reviews_of_returned hwalk h

/-- **Retries are transparent.**  Some attempts that fail, then one that succeeds, leave the
`reviews` table of one uninterrupted run; and every attempt reads the same watermark. -/
theorem retries_transparent {last single : RunEnv} {outcome₁ outcome₂ : IngestionOutcome}
    (hnodup : (listing.map (·.sourceReviewId)).Nodup)
    (hlists : ∀ env ∈ attempts, Lists env.adapter source listing)
    (hlast : Lists last.adapter source listing) (hsingle : Lists single.adapter source listing)
    (hfail : AllFail mode attempts db)
    (hsucceeds : (ingest last mode (afterAttempts mode attempts db)).1 = .returned outcome₁)
    (huninterrupted : (ingest single mode db).1 = .returned outcome₂) :
    (ingest last mode (afterAttempts mode attempts db)).2.reviews
        = (ingest single mode db).2.reviews ∧
      ∀ n, mode.stopAt source (afterAttempts mode (attempts.take n) db) = mode.stopAt source db := by
  constructor
  · obtain ⟨hstop, htable⟩ := afterAttempts_spec hnodup hlists hfail
    rw [reviews_of_lists hlast hsucceeds, reviews_of_lists hsingle huninterrupted, hstop, htable]
  · intro n
    have hlists' : ∀ env ∈ attempts.take n, Lists env.adapter source listing :=
      fun env henv => hlists env (List.mem_of_mem_take henv)
    exact (afterAttempts_spec hnodup hlists' (allFail_take hfail n)).1

/-- The listing of the example below. -/
def threeReviews : List NormalizedReview :=
  [plainReview "c" none 40, plainReview "b" (some "Late.") 30, plainReview "a" none 10]

/-- The listing in one page. -/
def onePage (started : Instant) : RunEnv :=
  RunEnv.steady (servePages "google" ⟨threeReviews, none, 0⟩ []) started

/-- The listing in two pages, the second of which raises at its commit. -/
def secondPageFails (started : Instant) : RunEnv :=
  (RunEnv.steady (servePages "google" ⟨threeReviews.take 1, some "p2", 0⟩
    [("p2", ⟨threeReviews.drop 1, none, 0⟩)]) started).withFate
      (.commit 1) (.raises ⟨"OperationalError", "deadlock detected"⟩)

/-- The store of an earlier backfill that knew only the oldest review. -/
def earlierStore : Database :=
  (ingest (RunEnv.steady (servePages "google" ⟨threeReviews.drop 2, none, 0⟩ []) 20)
    .backfill .empty).2

theorem retries_transparent_second_attempt :
    (ingest (onePage 60) .incremental
        (afterAttempts .incremental [secondPageFails 50] earlierStore)).2.reviews
      = (ingest (onePage 50) .incremental earlierStore).2.reviews ∧
    ∀ n, Mode.incremental.stopAt "google"
        (afterAttempts .incremental ([secondPageFails 50].take n) earlierStore)
      = Mode.incremental.stopAt "google" earlierStore := by
  have hpages : ∀ env ∈ [secondPageFails 50], Lists env.adapter "google" threeReviews := by
    intro env henv
    rw [List.mem_singleton.mp henv]
    exact ⟨rfl, [⟨threeReviews.take 1, some "p2", 0⟩, ⟨threeReviews.drop 1, none, 0⟩],
      by decide, rfl⟩
  have hone : ∀ started, Lists (onePage started).adapter "google" threeReviews := by
    intro started
    exact ⟨rfl, [⟨threeReviews, none, 0⟩], ⟨rfl, _, rfl, rfl⟩, rfl⟩
  have hraised : (ingest (secondPageFails 50) .incremental earlierStore).1
      = .raised ⟨.commit 1, ⟨"OperationalError", "deadlock detected"⟩⟩ := by
    decide
  have hlast : (ingest (onePage 60) .incremental
      (afterAttempts .incremental [secondPageFails 50] earlierStore)).1
      = .returned ⟨3, 1, 0, 1, 0⟩ := by
    decide
  have hsingle : (ingest (onePage 50) .incremental earlierStore).1 = .returned ⟨3, 2, 0, 0, 0⟩ := by
    decide
  refine retries_transparent (by decide) hpages (hone 60) (hone 50) ⟨?_, trivial⟩ hlast hsingle
  intro outcome h
  rw [hraised] at h
  cases h

end ReviewSignal
