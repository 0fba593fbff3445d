import ReviewSignal.Services.PageRequests
import ReviewSignal.Worker.UnrecoverableFailures

/-!
# The access token of a run

`_ingest` resolves one access token and builds one client with it; no code looks at the token again,
so every page request of the run is sent with it, however late.

**When the requests are live** (`requests_live_iff`).  They are all sent with a token that has not expired
exactly when the pages before the last request are fetched and stored within the lifetime the token had
left when the job resolved it.  The stored token is used while it has more than the refresh margin left, so
that may be little more than the margin; after a refresh it is what the token endpoint granted.

**When they are not** (`backfill_outlasts_token`).  A backfill of two pages, the first of which takes more
than an hour.  What Google answers to the second request is left open; the result is about what is sent.

How long the pages take is a parameter (`IngestTimes`), one duration for each step of the job.  No bound on
it is assumed, and none can be: a page is as slow as Google and the database are.
-/

namespace ReviewSignal

/-- How long a job takes to come to its first page request, and for each page. -/
structure IngestTimes where
  setup : ℕ
  fetch : ℕ → ℕ
  store : ℕ → ℕ

/-- The time from the resolution of the token to a page request. -/
def IngestTimes.before (times : IngestTimes) : ℕ → ℕ
  | 0 => times.setup
  | call + 1 => times.before call + times.fetch call + times.store call

/-- One execution of `google_backfill` or `google_sync`, with what it depends on. -/
structure GoogleJob where
  api : GoogleApi
  resolvedAt : Instant
  tokenAnswer : TokenAnswer
  clock : RunClock
  fate : Point → Fate
  lifetime : ℕ
  times : IngestTimes

def GoogleJob.env (job : GoogleJob) : IngestEnv :=
  .ofGoogle job.api job.resolvedAt job.tokenAnswer job.clock job.fate job.lifetime

/-- One call of `list_reviews`. -/
structure ListReviewsCall where
  request : HttpRequest
  sentAt : Instant
  deriving DecidableEq

section AnyCipher

variable [Cipher]

/-- The token that is sent is the stored one, and it has not expired. -/
def ListReviewsCall.Live (credentials : CredentialTable) (call : ListReviewsCall) : Prop :=
  ∃ credential token expiresAt, credentials.lookup "google" = some credential ∧
    credential.accessTokenEncrypted = some token ∧ credential.tokenExpiresAt = some expiresAt ∧
    call.request.authorization = "Bearer " ++ decrypt token ∧ call.sentAt < expiresAt

namespace Jobs

/-- The calls of `list_reviews` that `_ingest` makes. -/
def listReviewsCalls (job : GoogleJob) (mode : Mode) (store : Store) : List ListReviewsCall :=
  match GoogleToken.loadCredential "google" store.credentials with
  | .error _ => []
  | .ok credential =>
      match credential.accountId, credential.locationId with
      | some accountId, some locationId =>
          match GoogleToken.resolveAccessToken "google" job.resolvedAt job.tokenAnswer credential
              store.credentials with
          | (.error _, _) => []
          | (.ok accessToken, _) =>
              let client : GoogleReviewsClient := ⟨accessToken, accountId, locationId⟩
              (runRequests (job.env.run accessToken ⟨accountId, locationId⟩) mode
                  (mode.stopAt "google" store.db)).map fun request =>
                { request := client.request request.cursor
                  sentAt := job.resolvedAt + job.times.before request.call }
      | _, _ => []

end Jobs

/-- **The condition.**  What comes before the last page request takes less time than the token that the
job resolves has left. -/
def GoogleJob.InTime (job : GoogleJob) (mode : Mode) (store : Store) : Prop :=
  ∀ credential last, GoogleToken.loadCredential "google" store.credentials = .ok credential →
    (Jobs.listReviewsCalls job mode store).length = last + 1 →
    (job.times.before last : ℤ)
      < GoogleToken.expiry job.resolvedAt job.tokenAnswer credential - job.resolvedAt

/-! ## The calls of a run

Durations only add up, so the last request is the one that decides. -/

omit [Cipher] in
theorem before_le_before (times : IngestTimes) {m n : ℕ} (h : m ≤ n) :
    times.before m ≤ times.before n := by
  induction n, h using Nat.le_induction with
  | base => exact le_rfl
  | succ n _ ih =>
      rw [IngestTimes.before]
      omega

variable {job : GoogleJob} {mode : Mode} {store : Store}

/-- A job calls nothing, or it calls Google with the token it has resolved. -/
theorem listReviewsCalls_cases (job : GoogleJob) (mode : Mode) (store : Store) :
    Jobs.listReviewsCalls job mode store = [] ∨
    ∃ credential accessToken profile after,
      GoogleToken.loadCredential "google" store.credentials = .ok credential ∧
      GoogleToken.resolveAccessToken "google" job.resolvedAt job.tokenAnswer credential
        store.credentials = (.ok accessToken, after) ∧
      (Jobs.ingestJob job.env mode store).2.credentials = after ∧
      Jobs.listReviewsCalls job mode store
        = (runRequests (job.env.run accessToken profile) mode (mode.stopAt "google" store.db)).map
            fun request => {
              request := (GoogleReviewsClient.mk accessToken profile.accountId
                profile.locationId).request request.cursor
              sentAt := job.resolvedAt + job.times.before request.call } := by
  cases hload : GoogleToken.loadCredential "google" store.credentials with
  | error exc => exact .inl (by simp [Jobs.listReviewsCalls, hload])
  | ok credential =>
      cases haccount : credential.accountId with
      | none => exact .inl (by simp [Jobs.listReviewsCalls, hload, haccount])
      | some accountId =>
          cases hlocation : credential.locationId with
          | none => exact .inl (by simp [Jobs.listReviewsCalls, hload, haccount, hlocation])
          | some locationId =>
              rcases hresolve : GoogleToken.resolveAccessToken "google" job.resolvedAt
                job.tokenAnswer credential store.credentials with ⟨exc | accessToken, after⟩
              · left
                simp [Jobs.listReviewsCalls, hload, haccount, hlocation, hresolve]
              · right
                have hresolve' : GoogleToken.resolveAccessToken "google" job.env.resolvedAt
                    job.env.tokenAnswer credential store.credentials = (.ok accessToken, after) :=
                  hresolve
                refine ⟨credential, accessToken, ⟨accountId, locationId⟩, after, rfl, hresolve, ?_, ?_⟩
                · simp [Jobs.ingestJob, hload, haccount, hlocation, hresolve']
                · simp [Jobs.listReviewsCalls, hload, haccount, hlocation, hresolve]

/-- **Every page request carries a live token** if and only if the run is in time for its last one.  A job
that refuses makes none, and is in time. -/
theorem requests_live_iff (job : GoogleJob) (mode : Mode) (store : Store) :
    (∀ call ∈ Jobs.listReviewsCalls job mode store,
        call.Live (Jobs.ingestJob job.env mode store).2.credentials) ↔ job.InTime mode store := by
  rcases listReviewsCalls_cases job mode store with
    hnone | ⟨credential, accessToken, profile, after, hload, hresolve, hafter, hcalls⟩
  · simp [GoogleJob.InTime, hnone]
  · obtain ⟨hlookup, -⟩ := GoogleToken.loadCredential_eq_ok.mp hload
    obtain ⟨row, ciphertext, hrow, htoken, hplain, hexpires⟩ :=
      GoogleToken.resolveAccessToken_ok hlookup hresolve
    let left : ℤ := GoogleToken.expiry job.resolvedAt job.tokenAnswer credential - job.resolvedAt
    let requests := runRequests (job.env.run accessToken profile) mode (mode.stopAt "google" store.db)
    have hlive : ∀ request : PageRequest, ListReviewsCall.Live after {
          request := (GoogleReviewsClient.mk accessToken profile.accountId
            profile.locationId).request request.cursor
          sentAt := job.resolvedAt + job.times.before request.call } ↔
        (job.times.before request.call : ℤ) < left := by
      intro request
      constructor
      · rintro ⟨row', token, expiresAt, hrow', -, hexpires', -, hsent⟩
        obtain rfl : row = row' := Option.some.inj (hrow.symm.trans hrow')
        obtain rfl := Option.some.inj (hexpires.symm.trans hexpires')
        exact lt_sub_iff_add_lt'.mpr hsent
      · intro hsent
        refine ⟨row, ciphertext, _, hrow, htoken, hexpires, ?_, lt_sub_iff_add_lt'.mp hsent⟩
        rw [hplain]
        rfl
    have hgrows : ∀ m n, m ≤ n → (job.times.before m : ℤ) ≤ job.times.before n := by
      intro m n h
      exact_mod_cast before_le_before job.times h
    have hlast : (∀ request ∈ requests, (job.times.before request.call : ℤ) < left) ↔
        ∀ last, requests.length = last + 1 → (job.times.before last : ℤ) < left :=
      forall_runRequests_lt_iff hgrows left
    have hinTime : job.InTime mode store ↔
        ∀ last, requests.length = last + 1 → (job.times.before last : ℤ) < left := by
      have hlength : (Jobs.listReviewsCalls job mode store).length = requests.length := by
        rw [hcalls, List.length_map]
      rw [GoogleJob.InTime, hlength]
      constructor
      · exact fun h last => h credential last hload
      · intro h credential' last hload'
        obtain rfl : credential = credential' := Except.ok.inj (hload.symm.trans hload')
        exact h last
    rw [hafter, hcalls, hinTime, ← hlast]
    simp only [List.forall_mem_map, hlive]
    rfl

end AnyCipher

/-! ## A backfill of more than an hour

The token is fresh, and the job slow. -/

open scoped PlainCipher

/-- Two pages without reviews. -/
def twoPages : GoogleApi where
  answer call _ := .response 200 "" (.ok (match call with
    | 0 => .obj [("nextPageToken", .str "second")]
    | _ => .obj []))
  toNormalizedReview _ := .ok none
  str _ := ""

/-- The token endpoint grants a token for an hour, and the first page takes longer. -/
def slowBackfill : GoogleJob where
  api := twoPages
  resolvedAt := 0
  tokenAnswer := .response 200 "" (.ok { accessToken := some "token", expiresIn := some 3600 })
  clock := ⟨0, 1, 1⟩
  fate _ := .proceeds
  lifetime := 3
  times := ⟨0, fun _ => 3600000000, fun _ => 1⟩

/-- The second page is requested with a token that has expired. -/
theorem backfill_outlasts_token :
    GoogleToken.outcome slowBackfill.tokenAnswer = .granted "token" 3600 ∧
    ∃ call ∈ Jobs.listReviewsCalls slowBackfill .backfill revokedStore,
      ¬ call.Live (Jobs.ingestJob slowBackfill.env .backfill revokedStore).2.credentials := by
  refine ⟨by decide, ⟨_, 3600000001⟩, List.mem_cons_of_mem _ List.mem_cons_self, ?_⟩
  rintro ⟨row, token, expiresAt, hrow, -, hexpires, -, hsent⟩
  cases hrow
  cases hexpires
  exact absurd hsent (by decide)

end ReviewSignal
