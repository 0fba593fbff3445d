import ReviewSignal.Services.IngestionWalk
import ReviewSignal.Foundations.StampedHistory

/-!
# Incremental sync misses nothing

The source is a `History` of reviews: every creation or edit stamps `updated_at` with its instant.
A run lists one snapshot of it, newest first, in pages of any size.

**What holds** (`incremental_sync_complete`).  Take any sequence of runs over an empty database that do not
overlap, of either mode, failing anywhere, and any run of it that ends with `success`: every review the
source held when that run listed it then has a row that agrees with it.

**Why.**  The watermark of a sync is the `started_at` of the last successful run, and the early exit skips
everything stamped at or before it.  The invariant `UpToWatermark` says why that is safe: a review
stamped at or before the watermark was already in the snapshot the successful run listed
(`History.snapshot_of_stamp_le`), was stored then, and cannot have changed since without a later
stamp.  Failed and partial runs keep the invariant because whatever they store is the current
version of its review.

**What is assumed of the source.**  That edits stamp `updated_at`, that a listing is a snapshot at one instant
in the order of the stamps, and that the instant is not before the run's `started_at`.  A review the source
deletes stays stored; nothing here speaks of it.
-/

namespace ReviewSignal

open ReviewRepository

/-- The edit history of a source. -/
abbrev SourceHistory := History Instant String NormalizedReview (·.updatedAt) (·.sourceReviewId)

/-- The reviews are the source's reviews at an instant, newest-changed first, each once. -/
structure ListsSnapshot (history : SourceHistory) (instant : Instant)
    (listing : List NormalizedReview) : Prop where
  newestFirst : listing.Pairwise fun a b => b.updatedAt ≤ a.updatedAt
  nodup : (listing.map (·.sourceReviewId)).Nodup
  mem_iff : ∀ review, review ∈ listing ↔
    history.snapshot instant review.sourceReviewId = some review

/-- One run of the service, and the instant its listing is of. -/
structure SyncAttempt where
  mode : Mode
  env : RunEnv
  listedAt : Instant

/-- The run reads the source, and lists one snapshot taken at or after its start. -/
structure SyncAttempt.Lists (attempt : SyncAttempt) (history : SourceHistory) (source : String) :
    Prop where
  source : attempt.env.adapter.source = source
  started_le : attempt.env.clock.started ≤ attempt.listedAt
  listing : ∃ walk, IsWalk attempt.env.adapter walk ∧
    ListsSnapshot history attempt.listedAt (listed walk)

/-- What a run leaves. -/
def SyncAttempt.after (attempt : SyncAttempt) (db : Database) : Database :=
  (ingest attempt.env attempt.mode db).2

/-- What some runs leave, one after the other. -/
def afterSyncs (attempts : List SyncAttempt) (db : Database) : Database :=
  attempts.foldl (fun db attempt => attempt.after db) db

/-- Some row agrees with the review. -/
def Stored (table : ReviewTable) (review : NormalizedReview) : Prop :=
  ∃ row, table.lookup review.sourceReviewId = some row ∧ Agrees row review

/-- **The invariant.**  After every run has listed, no later than `upTo`: what the source still
holds with a stamp at or before the watermark is stored. -/
structure UpToWatermark (history : SourceHistory) (source : String) (upTo : Instant)
    (db : Database) : Prop where
  le : ∀ w, SyncRunRepository.watermark source db.syncRuns = some w → w ≤ upTo
  stored : ∀ w, SyncRunRepository.watermark source db.syncRuns = some w →
    ∀ t, upTo ≤ t → ∀ id review, history.snapshot t id = some review → review.updatedAt ≤ w →
      Stored db.reviews review

variable {history : SourceHistory} {source : String} {db : Database} {upTo : Instant}
  {attempt : SyncAttempt} {attempts : List SyncAttempt} {listing : List NormalizedReview}
  {review : NormalizedReview}

theorem upToWatermark_empty : UpToWatermark history source upTo .empty where
  le w h := by cases h
  stored w h := by cases h

/-- Past the early exit of a newest-first listing everything is at or before the watermark. -/
theorem mem_reached_or_le (stopAt : Option Instant)
    (hsorted : listing.Pairwise fun a b => b.updatedAt ≤ a.updatedAt)
    (hmem : review ∈ listing) :
    review ∈ reached stopAt listing ∨ ∃ w, stopAt = some w ∧ review.updatedAt ≤ w := by
  induction listing with
  | nil => cases hmem
  | cons head rest ih =>
      rw [List.pairwise_cons] at hsorted
      cases hstop : IngestionService.atOrBelow stopAt head with
      | true =>
          right
          cases stopAt with
          | none => cases hstop
          | some w =>
              have hhead : head.updatedAt ≤ w := of_decide_eq_true hstop
              refine ⟨w, rfl, ?_⟩
              rcases List.mem_cons.mp hmem with rfl | hrest
              · exact hhead
              · exact le_trans (hsorted.1 review hrest) hhead
      | false =>
          have hreached : reached stopAt (head :: rest) = head :: reached stopAt rest := by
            simp [reached, hstop]
          rw [hreached, List.mem_cons]
          rcases List.mem_cons.mp hmem with rfl | hrest
          · exact .inl (.inl rfl)
          · rcases ih hsorted.2 hrest with h | h
            · exact .inl (.inr h)
            · exact .inr h

/-- The reviews an attempt stored, as a prefix of what its listing has above the watermark. -/
theorem SyncAttempt.Lists.exists_stored (h : attempt.Lists history source) (db : Database) :
    ∃ listing stored, ListsSnapshot history attempt.listedAt listing ∧
      stored <+: reached (attempt.mode.stopAt source db) listing ∧
      (attempt.after db).reviews = storeAll source stored db.reviews := by
  obtain ⟨rfl, -, walk, hwalk, hlisting⟩ := h
  obtain ⟨stored, hpre, hreviews⟩ := exists_stored hwalk attempt.mode db
  exact ⟨listed walk, stored, hlisting, hpre, hreviews⟩

/-- **Frame.**  A stored review that is still current when a run lists stays stored through the
run: the run either leaves its row alone or upserts that very review. -/
theorem stored_after (h : attempt.Lists history source) {t : Instant} {id : String}
    (hcurrent : history.snapshot t id = some review) (ht : attempt.listedAt ≤ t)
    (hstamp : review.updatedAt ≤ attempt.listedAt) (hstored : Stored db.reviews review) :
    Stored (attempt.after db).reviews review := by
  obtain ⟨listing, stored, hlisting, hpre, hreviews⟩ := h.exists_stored db
  have hsub : ∀ r ∈ stored, r ∈ listing := fun r hr =>
    (List.takeWhile_prefix _).subset (hpre.subset hr)
  obtain ⟨row, hrow, hagrees⟩ := hstored
  rw [Stored, hreviews]
  by_cases hmem : review.sourceReviewId ∈ stored.map (·.sourceReviewId)
  · obtain ⟨other, hother, hid⟩ := List.mem_map.mp hmem
    have hsame : other = review := by
      have hlisted := (hlisting.mem_iff other).mp (hsub other hother)
      have hname : review.sourceReviewId = id := history.name_of_snapshot hcurrent
      rw [hid, hname, history.snapshot_of_stamp_le hcurrent hstamp ht] at hlisted
      exact (Option.some.inj hlisted).symm
    have hinj : Set.InjOn (·.sourceReviewId) {r | r ∈ stored} :=
      (injOn_of_nodup hlisting.nodup).mono fun r hr => hsub r hr
    rw [lookup_storeAll_of_mem hinj (hsame ▸ hother)]
    exact ⟨_, rfl, agrees_upsertRow _⟩
  · rw [lookup_storeAll_of_notMem hmem]
    exact ⟨row, hrow, hagrees⟩

/-- **A successful run stores its whole snapshot**, when it is a backfill or the watermark is the
location's own. -/
theorem stored_of_success (h : attempt.Lists history source)
    (hcovered : attempt.mode = .backfill ∨ UpToWatermark history source upTo db)
    (hnext : upTo ≤ attempt.env.clock.started) {outcome : IngestionOutcome}
    (hreturned : (ingest attempt.env attempt.mode db).1 = .returned outcome) {id : String}
    (hcurrent : history.snapshot attempt.listedAt id = some review) :
    Stored (attempt.after db).reviews review := by
  have hlists := h
  obtain ⟨rfl, hstarted, walk, hwalk, hlisting⟩ := h
  have hmem : review ∈ listed walk := by
    rw [hlisting.mem_iff, history.name_of_snapshot hcurrent]
    exact hcurrent
  rcases mem_reached_or_le (attempt.mode.stopAt attempt.env.adapter.source db)
    hlisting.newestFirst hmem with hreached | ⟨w, hstop, hle⟩
  · have hinj : Set.InjOn (·.sourceReviewId)
        {r | r ∈ reached (attempt.mode.stopAt attempt.env.adapter.source db) (listed walk)} :=
      (injOn_of_nodup hlisting.nodup).mono fun r hr => (List.takeWhile_prefix _).subset hr
    rw [Stored, SyncAttempt.after, reviews_of_returned hwalk hreturned,
      lookup_storeAll_of_mem hinj hreached]
    exact ⟨_, rfl, agrees_upsertRow _⟩
  · -- below the watermark: stored by an earlier run, and kept by this one
    rcases hcovered with hbackfill | hinv
    · rw [hbackfill] at hstop
      cases hstop
    · have hw : SyncRunRepository.watermark attempt.env.adapter.source db.syncRuns = some w := by
        cases hmode : attempt.mode with
        | backfill => rw [hmode] at hstop; cases hstop
        | incremental => rw [hmode] at hstop; exact hstop
      have hlisted : upTo ≤ attempt.listedAt := hnext.trans hstarted
      have hstamp : review.updatedAt ≤ attempt.listedAt := (hle.trans (hinv.le w hw)).trans hlisted
      exact stored_after hlists hcurrent le_rfl hstamp
        (hinv.stored w hw attempt.listedAt hlisted id review hcurrent hle)

/-- The watermark after a run is no later than the one before, or the start of the run when it
succeeded. -/
theorem watermark_after (attempt : SyncAttempt) (db : Database) {w : Instant}
    (hw : SyncRunRepository.watermark attempt.env.adapter.source (attempt.after db).syncRuns
      = some w) :
    (∃ v, SyncRunRepository.watermark attempt.env.adapter.source db.syncRuns = some v ∧ w ≤ v) ∨
      w = attempt.env.clock.started ∧
        ∃ outcome, (ingest attempt.env attempt.mode db).1 = .returned outcome := by
  rcases ingest_left attempt.env attempt.mode db with ⟨hleft, -⟩ | ⟨row, hleft, hrow⟩
  · rw [SyncAttempt.after, hleft] at hw
    exact .inl ⟨w, hw, le_rfl⟩
  · rw [SyncAttempt.after, hleft] at hw
    obtain ⟨run, hrun, hsource, hsuccess, rfl⟩ := SyncRunRepository.watermark_mem hw
    rcases List.mem_append.mp hrun with hold | hnew
    · exact .inl (SyncRunRepository.exists_watermark hold hsource hsuccess)
    · obtain rfl := List.mem_singleton.mp hnew
      exact .inr ⟨hrow.startedAt, hrow.status.mp hsuccess⟩

/-- A run that fails keeps the invariant, if it keeps what is stored and current. -/
theorem UpToWatermark.of_failed (hinv : UpToWatermark history source upTo db)
    (hsource : attempt.env.adapter.source = source) (hlisted : upTo ≤ attempt.listedAt)
    (hkeeps : ∀ t id review, attempt.listedAt ≤ t → history.snapshot t id = some review →
      review.updatedAt ≤ attempt.listedAt → Stored db.reviews review →
      Stored (attempt.after db).reviews review)
    (hfailed : ∀ outcome, (ingest attempt.env attempt.mode db).1 ≠ .returned outcome) :
    UpToWatermark history source attempt.listedAt (attempt.after db) := by
  have hold : ∀ w, SyncRunRepository.watermark source (attempt.after db).syncRuns = some w →
      ∃ v, SyncRunRepository.watermark source db.syncRuns = some v ∧ w ≤ v := by
    intro w hw
    subst hsource
    rcases watermark_after attempt db hw with hold | ⟨-, outcome, hreturned⟩
    · exact hold
    · exact absurd hreturned (hfailed outcome)
  constructor
  · intro w hw
    obtain ⟨v, hv, hle⟩ := hold w hw
    exact (hle.trans (hinv.le v hv)).trans hlisted
  · intro w hw t ht id review hcurrent hstamp
    obtain ⟨v, hv, hle⟩ := hold w hw
    have hle' : review.updatedAt ≤ v := hstamp.trans hle
    exact hkeeps t id review ht hcurrent ((hle'.trans (hinv.le v hv)).trans hlisted)
      (hinv.stored v hv t (hlisted.trans ht) id review hcurrent hle')

/-- A run that succeeds establishes the invariant: it is the new watermark, and everything stamped
by its start was in its snapshot. -/
theorem UpToWatermark.of_success (h : attempt.Lists history source)
    (hcovered : attempt.mode = .backfill ∨ UpToWatermark history source upTo db)
    (hnext : upTo ≤ attempt.env.clock.started)
    (hbefore : ∀ w, SyncRunRepository.watermark source db.syncRuns = some w → w ≤ upTo)
    {outcome : IngestionOutcome}
    (hreturned : (ingest attempt.env attempt.mode db).1 = .returned outcome) :
    UpToWatermark history source attempt.listedAt (attempt.after db) := by
  have hle : ∀ w, SyncRunRepository.watermark source (attempt.after db).syncRuns = some w →
      w ≤ attempt.listedAt := by
    intro w hw
    rw [← h.source] at hw
    rcases watermark_after attempt db hw with ⟨v, hv, hle⟩ | ⟨rfl, -⟩
    · exact (hle.trans (hbefore v (h.source ▸ hv))).trans (hnext.trans h.started_le)
    · exact h.started_le
  refine ⟨hle, ?_⟩
  intro w hw t ht id review hcurrent hstamp
  exact stored_of_success h hcovered hnext hreturned
    (history.snapshot_of_stamp_le hcurrent (hstamp.trans (hle w hw)) ht)

/-- **One run keeps the invariant**, however it ends. -/
theorem UpToWatermark.step (hinv : UpToWatermark history source upTo db)
    (h : attempt.Lists history source) (hnext : upTo ≤ attempt.env.clock.started) :
    UpToWatermark history source attempt.listedAt (attempt.after db) := by
  by_cases hreturned : ∃ outcome, (ingest attempt.env attempt.mode db).1 = .returned outcome
  · obtain ⟨outcome, hreturned⟩ := hreturned
    exact .of_success h (.inr hinv) hnext hinv.le hreturned
  · refine hinv.of_failed h.source (hnext.trans h.started_le) ?_ fun outcome hreturned' =>
      hreturned ⟨outcome, hreturned'⟩
    intro t id review ht hcurrent hstamp hstored
    exact stored_after h hcurrent ht hstamp hstored

/-- The invariant after a whole sequence of runs.  The induction is on the runs, from the last. -/
theorem upToWatermark_afterSyncs (next : Instant)
    (hlists : ∀ attempt ∈ attempts, attempt.Lists history source)
    (hseq : attempts.Pairwise fun a b => a.listedAt ≤ b.env.clock.started)
    (hnext : ∀ attempt ∈ attempts, attempt.listedAt ≤ next) :
    ∃ upTo, upTo ≤ next ∧ UpToWatermark history source upTo (afterSyncs attempts .empty) := by
  induction attempts using List.reverseRecOn generalizing next with
  | nil => exact ⟨next, le_rfl, upToWatermark_empty⟩
  | append_singleton attempts last ih =>
      rw [List.pairwise_append] at hseq
      obtain ⟨hinit, -, hlast⟩ := hseq
      obtain ⟨upTo, hupTo, hinv⟩ := ih last.env.clock.started
        (fun a ha => hlists a (List.mem_append_left _ ha)) hinit
        fun a ha => hlast a ha last List.mem_cons_self
      refine ⟨last.listedAt, hnext last (List.mem_append_right _ List.mem_cons_self), ?_⟩
      rw [afterSyncs, List.foldl_append]
      exact hinv.step (hlists last (List.mem_append_right _ List.mem_cons_self)) hupTo

/-- **Incremental sync is complete.**  Take any sequence of runs over an empty database that do not
overlap, and any run of it that ends with status `success`.  Every review the source held at that
run's listing instant then has a row that agrees with it. -/
theorem incremental_sync_complete (history : SourceHistory) (source : String)
    (before : List SyncAttempt) (attempt : SyncAttempt) (after : List SyncAttempt)
    (hlists : ∀ a ∈ before ++ attempt :: after, a.Lists history source)
    (hseq : (before ++ attempt :: after).Pairwise fun a b => a.listedAt ≤ b.env.clock.started)
    {row : SyncRun} (hrow : (attempt.after (afterSyncs before .empty)).syncRuns
      = (afterSyncs before .empty).syncRuns ++ [row]) (hsuccess : row.status = .success)
    {id : String} {review : NormalizedReview}
    (hcurrent : history.snapshot attempt.listedAt id = some review) :
    ∃ stored, (attempt.after (afterSyncs before .empty)).reviews.lookup id = some stored ∧
      Agrees stored review := by
  rw [List.pairwise_append] at hseq
  obtain ⟨hinit, -, hattempt⟩ := hseq
  obtain ⟨upTo, hupTo, hinv⟩ := upToWatermark_afterSyncs attempt.env.clock.started
    (fun a ha => hlists a (List.mem_append_left _ ha)) hinit
    fun a ha => hattempt a ha attempt List.mem_cons_self
  have hattempt := hlists attempt (List.mem_append_right _ List.mem_cons_self)
  obtain ⟨outcome, hreturned⟩ : ∃ outcome,
      (ingest attempt.env attempt.mode (afterSyncs before .empty)).1 = .returned outcome := by
    rcases ingest_left attempt.env attempt.mode (afterSyncs before .empty) with
      ⟨hleft, -⟩ | ⟨run, hleft, hrun⟩
    · rw [SyncAttempt.after, hleft] at hrow
      simp at hrow
    · rw [SyncAttempt.after, hleft] at hrow
      obtain rfl : run = row := by simpa using hrow
      exact hrun.status.mp hsuccess
  have hstored := stored_of_success hattempt (.inr hinv) hupTo hreturned hcurrent
  rwa [Stored, history.name_of_snapshot hcurrent] at hstored

/-! ## A review edited while the backfill is in flight

The edit comes after the listing of the backfill and before the next sync. -/

/-- A review is created at 10 and edited at 35, another one is created at 40. -/
def editedHistory : SourceHistory where
  writes := [⟨10, "a", some (plainReview "a" none 10)⟩,
    ⟨35, "a", some (plainReview "a" (some "Late.") 35)⟩,
    ⟨40, "b", some (plainReview "b" none 40)⟩]
  chronological := by decide
  stamped := by simp [plainReview]
  named := by simp [plainReview]

/-- A run over one page. -/
def syncOnce (mode : Mode) (started listedAt : Instant) (listing : List NormalizedReview) :
    SyncAttempt :=
  ⟨mode, RunEnv.steady (servePages "google" ⟨listing, none, 0⟩ []) started, listedAt⟩

/-- The backfill lists the source at 32, before the edit. -/
def editedBackfill : SyncAttempt := syncOnce .backfill 30 32 [plainReview "a" none 10]

/-- The sync lists it at 55. -/
def editedSync : SyncAttempt :=
  syncOnce .incremental 50 55 [plainReview "b" none 40, plainReview "a" (some "Late.") 35]

theorem editedHistory_cases {t : Instant} {id : String} {review : NormalizedReview}
    (h : editedHistory.snapshot t id = some review) : review = plainReview "a" none 10 ∨
      review = plainReview "a" (some "Late.") 35 ∨ review = plainReview "b" none 40 := by
  obtain ⟨w, hw, hvalue⟩ := History.exists_getLast_of_snapshot h
  obtain ⟨hmem, -, -⟩ := History.mem_upTo.mp (List.mem_of_getLast? hw)
  simp only [editedHistory, List.mem_cons, List.not_mem_nil, or_false] at hmem
  rcases hmem with rfl | rfl | rfl
  · exact .inl (Option.some.inj hvalue).symm
  · exact .inr (.inl (Option.some.inj hvalue).symm)
  · exact .inr (.inr (Option.some.inj hvalue).symm)

theorem editedBackfill_lists : editedBackfill.Lists editedHistory "google" where
  source := rfl
  started_le := by decide
  listing := by
    refine ⟨[⟨[plainReview "a" none 10], none, 0⟩], by decide, by decide, by decide, ?_⟩
    intro review
    constructor
    · intro h
      rw [List.mem_singleton.mp h]
      decide
    · intro h
      rcases editedHistory_cases h with rfl | rfl | rfl
      · decide
      · exact absurd h (by decide)
      · exact absurd h (by decide)

theorem editedSync_lists : editedSync.Lists editedHistory "google" where
  source := rfl
  started_le := by decide
  listing := by
    refine ⟨[⟨[plainReview "b" none 40, plainReview "a" (some "Late.") 35], none, 0⟩],
      by decide, by decide, by decide, ?_⟩
    intro review
    constructor
    · intro h
      rcases List.mem_cons.mp h with rfl | h
      · decide
      · rw [List.mem_singleton.mp h]
        decide
    · intro h
      rcases editedHistory_cases h with rfl | rfl | rfl
      · exact absurd h (by decide)
      · decide
      · decide

theorem incremental_sync_complete_edit_in_flight :
    ∃ stored, (editedSync.after (afterSyncs [editedBackfill] .empty)).reviews.lookup "a"
        = some stored ∧ Agrees stored (plainReview "a" (some "Late.") 35) := by
  have hlists : ∀ a ∈ [editedBackfill] ++ editedSync :: [], a.Lists editedHistory "google" := by
    intro a ha
    rcases List.mem_cons.mp ha with rfl | ha
    · exact editedBackfill_lists
    · rw [List.mem_singleton.mp ha]
      exact editedSync_lists
  have hrow : (editedSync.after (afterSyncs [editedBackfill] .empty)).syncRuns
      = (afterSyncs [editedBackfill] .empty).syncRuns ++ [⟨"google", 50, some 51, .success, 2, 1, 1,
          none, some (.obj [("next_cursor", .null)])⟩] := by
    decide
  exact incremental_sync_complete editedHistory "google" [editedBackfill] editedSync [] hlists
    (by decide) hrow rfl (by decide)

end ReviewSignal
