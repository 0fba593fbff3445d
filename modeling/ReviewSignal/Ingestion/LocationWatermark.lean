import ReviewSignal.Foundations.Transition
import ReviewSignal.Ingestion.SyncCompleteness
import ReviewSignal.Services.GoogleConnection
import ReviewSignal.Worker.Jobs.Ingest

/-!
# Whose watermark a sync resumes from

Connecting, selecting a profile, disconnecting, backfilling and syncing, in any order.  The watermark
is looked up by the source's name alone, while the profile a run reads is a column of the credential.

**What holds** (`syncs_complete`).  Along every run of operations in which each sync that gets to the service
is made while the last successful run, if there is one, is a run of the selected profile (`OwnWatermark`),
every sync that succeeds leaves every review of that profile's listing stored as it is listed.

**What does not** (`other_location_hides_review`).  One location is backfilled, another selected and synced:
the sync resumes from the watermark of the first, succeeds, and stores nothing.

**Why.**  The invariant `Owned` ties the watermark to the profile of the last successful run, which no table
records.  A run of one profile cannot harm what is stored of another (`stored_after_elsewhere`), so only the
watermark of the wrong owner can, and the condition rules that out.  It asks nothing of a backfill, which
reads no watermark, of a run that fails, or of a sync that is refused before it reads one.

**What is assumed.**  What Google does is as in `SyncCompleteness`, for each profile.  Runs do not overlap,
and every operation is over before the next one begins.
-/

namespace ReviewSignal

open Jobs ReviewRepository

/-- What Google holds: the edit history of all reviews, and the profiles each of them is listed
under. -/
structure GoogleWorld where
  history : SourceHistory
  lists : Profile → String → Bool

/-- The history of the reviews of one profile. -/
def GoogleWorld.reviewsOf (world : GoogleWorld) (profile : Profile) : SourceHistory :=
  world.history.restrict (world.lists profile)

/-- The operations, with what the outside world does in each.  `listedAt` is the instant of the
listing a run reads. -/
inductive Operation where
  | complete (now : Instant) (answer : TokenAnswer)
  | selectLocation (now : Instant) (accountId locationId : String)
  | disconnect (now : Instant)
  | ingest (mode : Mode) (env : IngestEnv) (listedAt : Instant)

/-- The tables, the instant of the last listing, and the profile the last successful run read: the
last two are recorded in no table. -/
structure Deployment where
  store : Store
  lastListed : Instant
  lastRead : Option Profile

/-- Nothing connected and nothing ingested. -/
def Deployment.fresh (since : Instant) : Deployment := ⟨⟨∅, .empty⟩, since, none⟩

/-- The profile of a successful run. -/
def IngestResult.successOf : IngestResult → Option Profile
  | .ran profile (.returned _) => some profile
  | _ => none

section Operations

variable [Cipher]

namespace Deployment

/-- The credentials after a request. -/
def setCredentials (credentials : CredentialTable) (s : Deployment) : Deployment :=
  { s with store := { s.store with credentials } }

/-- One operation.  Runs do not overlap: a run starts at or after the last listing. -/
def step (s : Deployment) : Operation → Option Deployment
  | .complete now answer =>
      some (s.setCredentials (GoogleConnectionService.complete now answer s.store.credentials).2)
  | .selectLocation now accountId locationId =>
      some (s.setCredentials
        (GoogleConnectionService.selectLocation now accountId locationId s.store.credentials).2)
  | .disconnect now =>
      some (s.setCredentials (GoogleConnectionService.disconnect now s.store.credentials))
  | .ingest mode env listedAt =>
      if env.clock.started < s.lastListed then none
      else
        let job := ingestJob env mode s.store
        some ⟨job.2, listedAt, job.1.successOf.or s.lastRead⟩

end Deployment

/-- Google serves every profile its own reviews, newest first, as of the listing instant. -/
def Operation.Serves (world : GoogleWorld) : Operation → Prop
  | .ingest mode env listedAt => ∀ accessToken profile,
      SyncAttempt.Lists ⟨mode, env.run accessToken profile, listedAt⟩ (world.reviewsOf profile)
        "google"
  | _ => True

/-- **The condition.**  A sync that is admitted to the service is made only while the last successful
run, if there is one, is a run of the selected profile.  A sync that is refused before looks at no
watermark. -/
def OwnWatermark (s : Deployment) : Operation → Prop
  | .ingest .incremental env _ => admitted env s.store.credentials →
      ∀ profile, selected s.store.credentials = some profile →
        s.lastRead = none ∨ s.lastRead = some profile
  | _ => True

instance (s : Deployment) (operation : Operation) : Decidable (OwnWatermark s operation) :=
  match operation with
  | .ingest .incremental env _ => inferInstanceAs (Decidable (admitted env s.store.credentials →
      ∀ profile ∈ selected s.store.credentials, s.lastRead = none ∨ s.lastRead = some profile))
  | .complete .. | .selectLocation .. | .disconnect .. | .ingest .backfill _ _ => isTrue trivial

/-- A sync that succeeds leaves every review of the selected profile's listing stored. -/
def SyncComplete (world : GoogleWorld) (s : Deployment) : Operation → Prop
  | .ingest .incremental env listedAt => ∀ profile outcome,
      (googleSync env s.store).1 = .ran profile (.returned outcome) →
      selected s.store.credentials = some profile ∧
      ∀ id review, (world.reviewsOf profile).snapshot listedAt id = some review →
        ∃ row, (googleSync env s.store).2.db.reviews.lookup id = some row ∧ Agrees row review
  | _ => True

/-- The invariant: the watermark covers the profile of the last successful run. -/
structure Owned (world : GoogleWorld) (s : Deployment) : Prop where
  unread : s.lastRead = none → SyncRunRepository.watermark "google" s.store.db.syncRuns = none
  read : ∀ profile, s.lastRead = some profile →
    UpToWatermark (world.reviewsOf profile) "google" s.lastListed s.store.db

variable {world : GoogleWorld} {s s' : Deployment} {profile : Profile} {attempt : SyncAttempt}
  {db : Database} {review : NormalizedReview}

/-! ## What a backfill or a sync can do

A job is refused before the service runs, or it runs the service on the selected profile. -/

omit [Cipher] in
theorem successOf_ran_of_failed {ended : Ended Raised IngestionOutcome}
    (h : ∀ outcome, ended ≠ .returned outcome) : (IngestResult.ran profile ended).successOf = none := by
  cases ended with
  | returned outcome => exact absurd rfl (h outcome)
  | raised error => rfl
  | died => rfl

/-- It refuses and changes nothing but the credential, or it runs the selected profile; and only a
run that succeeds takes over the watermark. -/
theorem Deployment.step_ingest {mode : Mode} {env : IngestEnv} {listedAt : Instant}
    (h : s.step (.ingest mode env listedAt) = some s') :
    s.lastListed ≤ env.clock.started ∧ s'.lastListed = listedAt ∧
    ((s'.store.db = s.store.db ∧ s'.lastRead = s.lastRead) ∨
      ∃ accessToken profile, admitted env s.store.credentials ∧
        selected s.store.credentials = some profile ∧
        s'.store.db = SyncAttempt.after ⟨mode, env.run accessToken profile, listedAt⟩ s.store.db ∧
        ((s'.lastRead = some profile ∧ ∃ outcome,
            (ReviewSignal.ingest (env.run accessToken profile) mode s.store.db).1
              = .returned outcome) ∨
          (s'.lastRead = s.lastRead ∧ ∀ outcome,
            (ReviewSignal.ingest (env.run accessToken profile) mode s.store.db).1
              ≠ .returned outcome))) := by
  rw [step] at h
  split_ifs at h with hlate
  rw [Option.some.injEq] at h
  subst h
  refine ⟨not_lt.mp hlate, rfl, ?_⟩
  rcases ingestJob_cases env mode s.store with ⟨exc, hresult, hdb⟩ |
    ⟨accessToken, profile, hadmitted, hselected, hresult, hdb⟩
  · left
    simp [hresult, hdb, IngestResult.successOf]
  · refine .inr ⟨accessToken, profile, hadmitted, hselected, hdb, ?_⟩
    by_cases hreturned : ∃ outcome,
        (ReviewSignal.ingest (env.run accessToken profile) mode s.store.db).1 = .returned outcome
    · obtain ⟨outcome, hreturned⟩ := hreturned
      left
      simp [hresult, hreturned, IngestResult.successOf]
    · right
      rw [not_exists] at hreturned
      simp [hresult, successOf_ran_of_failed hreturned, hreturned]

/-! ## The invariant

A run of another profile moves the watermark too, so the invariant says whose it is. -/

omit [Cipher] in
theorem owned_fresh (since : Instant) : Owned world (.fresh since) where
  unread _ := rfl
  read profile h := by cases h

omit [Cipher] in
/-- Requests leave the ingestion tables alone. -/
theorem Owned.setCredentials (h : Owned world s) (credentials : CredentialTable) :
    Owned world (s.setCredentials credentials) := ⟨h.unread, h.read⟩

omit [Cipher] in
theorem Owned.watermark_le (h : Owned world s) {w : Instant}
    (hw : SyncRunRepository.watermark "google" s.store.db.syncRuns = some w) :
    w ≤ s.lastListed := by
  cases hread : s.lastRead with
  | none =>
      rw [h.unread hread] at hw
      cases hw
  | some profile => exact (h.read profile hread).le w hw

omit [Cipher] in
/-- **Frame.**  A run of any profile keeps the stored and current reviews of every other one: it
does not deliver them, or delivers them as they are. -/
theorem stored_after_elsewhere {other : Profile}
    (h : attempt.Lists (world.reviewsOf other) "google") {t : Instant} {id : String}
    (hcurrent : (world.reviewsOf profile).snapshot t id = some review) (ht : attempt.listedAt ≤ t)
    (hstamp : review.updatedAt ≤ attempt.listedAt) (hstored : Stored db.reviews review) :
    Stored (attempt.after db).reviews review := by
  have hname : review.sourceReviewId = id := (world.reviewsOf profile).name_of_snapshot hcurrent
  rw [GoogleWorld.reviewsOf, History.snapshot_restrict] at hcurrent
  split_ifs at hcurrent
  by_cases hlists : world.lists other id
  · have hlisted : (world.reviewsOf other).snapshot t id = some review := by
      rw [GoogleWorld.reviewsOf, History.snapshot_restrict, if_pos hlists, hcurrent]
    exact stored_after h hlisted ht hstamp hstored
  · -- the run delivers no review of that id
    obtain ⟨listing, stored, hlisting, hpre, hreviews⟩ := h.exists_stored db
    have hnot : review.sourceReviewId ∉ stored.map (·.sourceReviewId) := by
      rintro hmem
      obtain ⟨delivered, hdelivered, hid⟩ := List.mem_map.mp hmem
      have hlisted : delivered ∈ listing :=
        (List.takeWhile_prefix _).subset (hpre.subset hdelivered)
      rw [hlisting.mem_iff, hid, hname, GoogleWorld.reviewsOf, History.snapshot_restrict,
        if_neg hlists] at hlisted
      cases hlisted
    obtain ⟨row, hrow, hagrees⟩ := hstored
    refine ⟨row, ?_, hagrees⟩
    rw [hreviews, lookup_storeAll_of_notMem hnot, hrow]

/-- What the condition and the invariant say about a run of the selected profile. -/
theorem Owned.covered (h : Owned world s) {mode : Mode} {env : IngestEnv} {listedAt : Instant}
    (hown : OwnWatermark s (.ingest mode env listedAt)) (hadmitted : admitted env s.store.credentials)
    (hselected : selected s.store.credentials = some profile) :
    mode = .backfill ∨
      UpToWatermark (world.reviewsOf profile) "google" s.lastListed s.store.db := by
  cases mode with
  | backfill => exact .inl rfl
  | incremental =>
      right
      rcases hown hadmitted profile hselected with hread | hread
      · -- nothing has succeeded yet: there is no watermark
        constructor
        · intro w hw
          rw [h.unread hread] at hw
          cases hw
        · intro w hw
          rw [h.unread hread] at hw
          cases hw
      · exact h.read profile hread

omit [Cipher] in
theorem UpToWatermark.mono {history : SourceHistory} {source : String} {upTo upTo' : Instant}
    (h : UpToWatermark history source upTo db) (hle : upTo ≤ upTo') :
    UpToWatermark history source upTo' db where
  le w hw := (h.le w hw).trans hle
  stored w hw t ht := h.stored w hw t (hle.trans ht)

/-- **A backfill or a sync keeps the invariant.** -/
theorem Owned.ingest (h : Owned world s) {mode : Mode} {env : IngestEnv} {listedAt : Instant}
    (hserves : Operation.Serves world (.ingest mode env listedAt))
    (hown : OwnWatermark s (.ingest mode env listedAt))
    (hstep : s.step (.ingest mode env listedAt) = some s') : Owned world s' := by
  obtain ⟨hnext, hlast, hcase⟩ := Deployment.step_ingest hstep
  rcases hcase with ⟨hdb, hread⟩ | ⟨accessToken, profile, hadmitted, hselected, hdb, hcase⟩
  · -- the job refused
    have hlisted : s.lastListed ≤ listedAt := hnext.trans (hserves "" ⟨"", ""⟩).started_le
    constructor
    · rw [hread, hdb]
      exact h.unread
    · rw [hread, hdb, hlast]
      exact fun profile hprofile => (h.read profile hprofile).mono hlisted
  · have hlists := hserves accessToken profile
    have hlisted : s.lastListed ≤ listedAt := hnext.trans hlists.started_le
    rcases hcase with ⟨hread, outcome, hreturned⟩ | ⟨hread, hfailed⟩
    · -- the run succeeded: the watermark is its own now
      constructor
      · simp [hread]
      · intro owner howner
        obtain rfl : profile = owner := by simpa [hread] using howner
        rw [hlast, hdb]
        exact .of_success hlists (h.covered hown hadmitted hselected) hnext (fun w hw => h.watermark_le hw)
          hreturned
    · -- it did not: the owner of the watermark stays
      constructor
      · intro hnone
        rw [hread] at hnone
        rw [hdb]
        by_contra hsome
        obtain ⟨w, hw⟩ := Option.ne_none_iff_exists'.mp hsome
        rw [← hlists.source] at hw
        rcases watermark_after _ s.store.db hw with ⟨v, hv, -⟩ | ⟨-, outcome, hreturned⟩
        · rw [hlists.source, h.unread hnone] at hv
          cases hv
        · exact hfailed outcome hreturned
      · intro owner howner
        rw [hread] at howner
        rw [hlast, hdb]
        refine (h.read owner howner).of_failed hlists.source hlisted ?_ hfailed
        intro t id review ht hcurrent hstamp hstored
        exact stored_after_elsewhere hlists hcurrent ht hstamp hstored

/-- **Every operation keeps the invariant.** -/
theorem Owned.step (h : Owned world s) {operation : Operation} (hserves : operation.Serves world)
    (hown : OwnWatermark s operation) (hstep : s.step operation = some s') : Owned world s' := by
  cases operation with
  | complete now answer =>
      obtain rfl := Option.some.inj hstep
      exact h.setCredentials _
  | selectLocation now accountId locationId =>
      obtain rfl := Option.some.inj hstep
      exact h.setCredentials _
  | disconnect now =>
      obtain rfl := Option.some.inj hstep
      exact h.setCredentials _
  | ingest mode env listedAt => exact h.ingest hserves hown hstep

/-- **A sync that succeeds is complete**, in a state that keeps the invariant. -/
theorem Owned.syncComplete (h : Owned world s) {operation : Operation}
    (hserves : operation.Serves world) (hown : OwnWatermark s operation)
    (hstep : s.step operation = some s') : SyncComplete world s operation := by
  cases operation with
  | ingest mode env listedAt =>
      cases mode with
      | backfill => trivial
      | incremental =>
          intro profile outcome hsuccess
          obtain ⟨hnext, -⟩ := Deployment.step_ingest hstep
          rw [googleSync] at hsuccess ⊢
          rcases ingestJob_cases env .incremental s.store with ⟨exc, hresult, -⟩ |
            ⟨accessToken, profile', hadmitted, hselected, hresult, hdb⟩
          · simp [hresult] at hsuccess
          · obtain ⟨rfl, hreturned⟩ : profile' = profile ∧
                (ReviewSignal.ingest (env.run accessToken profile') .incremental s.store.db).1
                  = .returned outcome := by
              simpa [hresult] using hsuccess
            refine ⟨hselected, ?_⟩
            intro id review hcurrent
            have hstored := stored_of_success (hserves accessToken profile')
              (h.covered hown hadmitted hselected) hnext hreturned hcurrent
            rw [hdb, ← (world.reviewsOf profile').name_of_snapshot hcurrent]
            exact hstored
  | _ => trivial

/-- **Syncs are complete.**  Along every run of operations in which each sync is made while the last
successful run, if there is one, is a run of the selected profile, every sync that succeeds leaves
every review of the selected profile's listing stored as it is listed. -/
theorem syncs_complete (world : GoogleWorld) (since : Instant) {operations : List Operation}
    (hrun : exec Deployment.step (.fresh since) operations = some s)
    (hserves : ∀ operation ∈ operations, operation.Serves world)
    (hown : Along Deployment.step OwnWatermark (.fresh since) operations) :
    Along Deployment.step (SyncComplete world) (.fresh since) operations := by
  refine Along.of_invariant (p := Owned world) ?_ ?_ (owned_fresh since)
    (hown.and_events hserves) hrun
  · rintro s operation s' hinv ⟨hserves, hown⟩ hstep
    exact hinv.step hserves hown hstep
  · rintro s operation s' hinv ⟨hserves, hown⟩ hstep
    exact hinv.syncComplete hserves hown hstep

end Operations

/-! ## Two locations of one account

The run that breaks the condition, and the same run with a backfill of the second location before its sync. -/

open scoped PlainCipher

/-- Two locations of account `1`, each with one review. -/
def twoLocations : GoogleWorld where
  history := {
    writes := [⟨10, "a", some (plainReview "a" none 10)⟩, ⟨12, "b", some (plainReview "b" none 12)⟩]
    chronological := by decide
    stamped := by simp [plainReview]
    named := by simp [plainReview] }
  lists profile id := (profile = ⟨"1", "A"⟩ ∧ id = "a") ∨ (profile = ⟨"1", "B"⟩ ∧ id = "b")

/-- Their listings, which never change. -/
def locationListing (profile : Profile) : List NormalizedReview :=
  if profile = ⟨"1", "A"⟩ then [plainReview "a" none 10]
  else if profile = ⟨"1", "B"⟩ then [plainReview "b" none 12]
  else []

/-- A job in which nothing goes wrong. -/
def twoLocationsEnv (started : Instant) : IngestEnv where
  resolvedAt := started
  tokenAnswer := .unreachable ⟨"ConnectError", "connection refused"⟩
  google _ profile := servePages "google" ⟨locationListing profile, none, 0⟩ []
  clock := ⟨started, started + 1, started + 1⟩
  fate _ := .proceeds
  lifetime := 3

theorem twoLocations_snapshot {t : Instant} (ht : 12 ≤ t) (profile : Profile) (id : String) :
    (twoLocations.reviewsOf profile).snapshot t id
      = if profile = ⟨"1", "A"⟩ ∧ id = "a" then some (plainReview "a" none 10)
        else if profile = ⟨"1", "B"⟩ ∧ id = "b" then some (plainReview "b" none 12)
        else none := by
  have hten : (10 : Instant) ≤ t := le_trans (by decide) ht
  rw [GoogleWorld.reviewsOf, History.snapshot_restrict]
  by_cases hA : profile = ⟨"1", "A"⟩ ∧ id = "a"
  · obtain ⟨rfl, rfl⟩ := hA
    simp [twoLocations, History.snapshot, History.upTo, hten]
  · by_cases hB : profile = ⟨"1", "B"⟩ ∧ id = "b"
    · obtain ⟨rfl, rfl⟩ := hB
      simp [twoLocations, History.snapshot, History.upTo, ht]
    · simp [twoLocations, hA, hB]

theorem listsSnapshot_singleton {history : SourceHistory} {t : Instant} {review : NormalizedReview}
    (hself : history.snapshot t review.sourceReviewId = some review)
    (hother : ∀ id ≠ review.sourceReviewId, history.snapshot t id = none) :
    ListsSnapshot history t [review] := by
  refine ⟨by simp, by simp, fun other => ?_⟩
  rw [List.mem_singleton]
  by_cases hid : other.sourceReviewId = review.sourceReviewId
  · simp [hid, hself, eq_comm]
  · simp only [hother _ hid, reduceCtorEq, iff_false]
    rintro rfl
    exact hid rfl

theorem listsSnapshot_locationListing {t : Instant} (ht : 12 ≤ t) (profile : Profile) :
    ListsSnapshot (twoLocations.reviewsOf profile) t (locationListing profile) := by
  by_cases hA : profile = ⟨"1", "A"⟩
  · subst hA
    refine listsSnapshot_singleton ?_ ?_
    · simp [twoLocations_snapshot ht, plainReview]
    · intro id hid
      have hne : id ≠ "a" := hid
      simp [twoLocations_snapshot ht, hne]
  · by_cases hB : profile = ⟨"1", "B"⟩
    · subst hB
      refine listsSnapshot_singleton ?_ ?_
      · simp [twoLocations_snapshot ht, plainReview]
      · intro id hid
        have hne : id ≠ "b" := hid
        simp [twoLocations_snapshot ht, hne]
    · constructor
      · simp [locationListing, hA, hB]
      · simp [locationListing, hA, hB]
      · simp [locationListing, twoLocations_snapshot ht, hA, hB]

theorem twoLocations_serves (mode : Mode) {started listedAt : Instant} (hstarted : 12 ≤ started)
    (hlisted : started ≤ listedAt) :
    Operation.Serves twoLocations (.ingest mode (twoLocationsEnv started) listedAt) := by
  intro accessToken profile
  refine ⟨rfl, hlisted, [⟨locationListing profile, none, 0⟩], ⟨rfl, _, rfl, rfl⟩, ?_⟩
  have hlisting : listed [⟨locationListing profile, none, 0⟩] = locationListing profile := by
    simp [listed]
  rw [hlisting]
  exact listsSnapshot_locationListing (hstarted.trans hlisted) profile

/-- Google is connected, location `A` is selected and backfilled, and location `B` selected. -/
def selectAnother : List Operation :=
  [.complete 20 (.response 200 "" (.ok ⟨some "at", some "rt", some 3600, ""⟩)),
    .selectLocation 21 "1" "A", .ingest .backfill (twoLocationsEnv 30) 32,
    .selectLocation 40 "1" "B"]

/-- The sync of `B` resumes from the watermark of `A` and stores none of the reviews of `B`. -/
theorem other_location_hides_review : ∃ s,
    exec Deployment.step (.fresh 0) selectAnother = some s ∧
      (∀ operation ∈ selectAnother ++ [.ingest .incremental (twoLocationsEnv 50) 52],
        operation.Serves twoLocations) ∧
      selected s.store.credentials = some ⟨"1", "B"⟩ ∧
      (googleSync (twoLocationsEnv 50) s.store).1 = .ran ⟨"1", "B"⟩ (.returned { fetched := 1 }) ∧
      (twoLocations.reviewsOf ⟨"1", "B"⟩).snapshot 52 "b" = some (plainReview "b" none 12) ∧
      (googleSync (twoLocationsEnv 50) s.store).2.db.reviews.lookup "b" = none := by
  refine ⟨_, rfl, ?_, rfl, ?_, ?_, ?_⟩
  · intro operation hmem
    simp only [selectAnother, List.cons_append, List.nil_append, List.mem_cons, List.not_mem_nil,
      or_false] at hmem
    rcases hmem with rfl | rfl | rfl | rfl | rfl
    · trivial
    · trivial
    · exact twoLocations_serves _ (by decide) (by decide)
    · trivial
    · exact twoLocations_serves _ (by decide) (by decide)
  · decide
  · decide
  · decide

/-- `B` is backfilled before it is synced. -/
def backfillAnother : List Operation :=
  selectAnother ++ [.ingest .backfill (twoLocationsEnv 50) 52,
    .ingest .incremental (twoLocationsEnv 60) 62]

theorem syncs_complete_backfilled :
    Along Deployment.step (SyncComplete twoLocations) (.fresh 0) backfillAnother := by
  refine syncs_complete twoLocations 0 rfl ?_ (by decide)
  intro operation hmem
  simp only [backfillAnother, selectAnother, List.cons_append, List.nil_append, List.mem_cons,
    List.not_mem_nil, or_false] at hmem
  rcases hmem with rfl | rfl | rfl | rfl | rfl | rfl
  · trivial
  · trivial
  · exact twoLocations_serves _ (by decide) (by decide)
  · trivial
  · exact twoLocations_serves _ (by decide) (by decide)
  · exact twoLocations_serves _ (by decide) (by decide)

end ReviewSignal
