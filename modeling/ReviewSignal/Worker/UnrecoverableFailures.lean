import ReviewSignal.Integrations.GoogleClient
import ReviewSignal.Worker.CrashRecovery
import ReviewSignal.Worker.Jobs.Ingest

/-!
# Google failures that no retry can fix

`google_backfill` and `google_sync` as handlers, in executions nothing else goes wrong in.

A credential that is missing, not connected, without a selected profile, or refused by Google
(`Unusable`) makes the handler raise `SourceNotConnectedError` (`refused_of_unusable`).  That is not
a `PermanentJobError`, so `run_job` raises it to RQ like any other exception.

* **`retried_unless_single`** — what follows, for every job whose first execution finds no usable
  credential: it is executed once and ends in the dead-letter status exactly when it has a single attempt.
* `rejected_grant_retried` — a job of three attempts whose grant Google revoked.  Each execution asks the
  token endpoint again.

The comments of `google_token.py` call such a failure permanent and say that a retry only burns attempts.
The class of the exception is what decides, and the runner knows one class.
-/

namespace ReviewSignal

/-- The job type that runs the service in a mode. -/
def Mode.jobType : Mode → String
  | .backfill => "google_backfill"
  | .incremental => "google_sync"

/-- The end of a job, as `run_job` sees it. -/
def Ended.ofRun : Ended Raised IngestionOutcome → Ended Exn Unit
  | .returned _ => .returned ()
  | .raised error => .raised error.exc
  | .died => .died

section AnyCipher

variable [Cipher]

/-- `google_backfill` or `google_sync`, as a handler. -/
def Jobs.googleHandler (env : IngestEnv) (mode : Mode) : Handler Store := fun _ _ store =>
  match ingestJob env mode store with
  | (.refused exc, store) => (.raised exc, store)
  | (.ran _ ended, store) => (ended.ofRun, store)

/-- The environment of a job whose adapter asks Google. -/
def IngestEnv.ofGoogle (api : GoogleApi) (resolvedAt : Instant) (tokenAnswer : TokenAnswer)
    (clock : RunClock) (fate : Point → Fate) (lifetime : ℕ) : IngestEnv where
  resolvedAt := resolvedAt
  tokenAnswer := tokenAnswer
  google accessToken profile := googleAdapter api ⟨accessToken, profile.accountId, profile.locationId⟩
  clock := clock
  fate := fate
  lifetime := lifetime

/-! ## What raises `SourceNotConnectedError`

The four ways a credential can be of no use, and the one lemma that covers them. -/

namespace GoogleToken

variable {source : String} {table : CredentialTable} {credential : SourceCredential} {exc : Exn}

omit [Cipher] in
theorem loadCredential_notConnected (h : loadCredential source table = .error exc) :
    exc.NotConnected := by
  rw [loadCredential] at h
  split at h
  · cases h
    rfl
  · split_ifs at h
    · cases h
      rfl
    · cases h
      rfl

/-- The token endpoint answers 400 or 401. -/
def Refused (answer : TokenAnswer) : Prop :=
  ∃ statusCode text body, answer = .response statusCode text body ∧
    (statusCode = 400 ∨ statusCode = 401)

variable (source table) in
theorem resolveAccessToken_refused {now : Instant} {answer : TokenAnswer}
    (hexpired : credential.accessTokenEncrypted = none ∨ stillValid now credential = false)
    (h : Refused answer) :
    ∃ exc after, resolveAccessToken source now answer credential table = (.error exc, after) ∧
      exc.NotConnected := by
  obtain ⟨statusCode, text, body, rfl, hstatus⟩ := h
  rw [resolveAccessToken_of_expired source _ table (usable_eq_false.mpr hexpired)]
  simp [refresh, hstatus, notConnected_sourceNotConnectedError]

end GoogleToken

/-- The stored credential is of no use for a job that starts now. -/
inductive Unusable (env : IngestEnv) (store : Store) : Prop
  /-- Missing, disconnected or invalid. -/
  | notConnected (h : ∀ credential, store.credentials.lookup "google" = some credential →
      credential.status ≠ .connected)
  /-- No account or no location is selected. -/
  | noProfile (h : Jobs.selected store.credentials = none)
  /-- The token endpoint refuses the refresh token. -/
  | refused (hexpired : ∀ credential, store.credentials.lookup "google" = some credential →
      credential.accessTokenEncrypted = none ∨ GoogleToken.stillValid env.resolvedAt credential = false)
      (h : GoogleToken.Refused env.tokenAnswer)

theorem refused_of_unusable {env : IngestEnv} {store : Store} (h : Unusable env store) (mode : Mode) :
    ∃ exc, (Jobs.ingestJob env mode store).1 = .refused exc ∧ exc.NotConnected := by
  have hprofile := notConnected_sourceNotConnectedError
    "The Google connection has no account/location selected yet."
  cases hload : GoogleToken.loadCredential "google" store.credentials with
  | error exc =>
      exact ⟨exc, by simp [Jobs.ingestJob, hload], GoogleToken.loadCredential_notConnected hload⟩
  | ok credential =>
      obtain ⟨hlookup, hstatus⟩ := GoogleToken.loadCredential_eq_ok.mp hload
      cases haccount : credential.accountId with
      | none => exact ⟨_, by simp [Jobs.ingestJob, hload, haccount], hprofile⟩
      | some accountId =>
          cases hlocation : credential.locationId with
          | none => exact ⟨_, by simp [Jobs.ingestJob, hload, haccount, hlocation], hprofile⟩
          | some locationId =>
              cases h with
              | notConnected h => exact absurd hstatus (h credential hlookup)
              | noProfile h => simp [Jobs.selected, hlookup, haccount, hlocation] at h
              | refused hexpired h =>
                  obtain ⟨exc, after, hresolve, hnot⟩ := GoogleToken.resolveAccessToken_refused
                    "google" store.credentials (hexpired credential hlookup) h
                  exact ⟨exc, by simp [Jobs.ingestJob, hload, haccount, hlocation, hresolve], hnot⟩

/-! ## What RQ makes of it

An ordinary exception, in the first execution and by the same argument in every other one. -/

/-- The executions of one job in which nothing goes wrong outside its handler. -/
def googleChain (mode : Mode) (startedAt finishedAt : ℕ → Instant) (env : ℕ → IngestEnv)
    (meanwhile : ℕ → Store → Store) : ChainEnv Store where
  runner n := .steady (startedAt n) (finishedAt n)
  handler n := Jobs.googleHandler (env n) mode
  meanwhile := meanwhile

/-- The handler of the first execution raised `SourceNotConnectedError`. -/
def FirstNotConnected {σ : Type} (trace : List (Delivery σ)) : Prop :=
  ∃ first exc, trace.head? = some first ∧ first.handled = .raised exc ∧ exc.NotConnected

omit [Cipher] in
theorem jobType_mem_handlers (mode : Mode) : mode.jobType ∈ handlers := by
  cases mode <;> decide

variable {mode : Mode} {startedAt finishedAt : ℕ → Instant} {env : ℕ → IngestEnv}
  {meanwhile : ℕ → Store → Store} {key : JobId} {db : WorkerDb Store} {job : Job} {exc : Exn}

/-- Such an execution records an ordinary exception. -/
theorem progress_of_notConnected (n : ℕ) (hnot : exc.NotConnected)
    (hhandled : ((googleChain mode startedAt finishedAt env meanwhile).deliver key n db).handled
      = .raised exc) :
    ((googleChain mode startedAt finishedAt env meanwhile).deliver key n db).progress mode.jobType
      = .recorded (.raises exc) := by
  have houtcome : HandlerOutcome.ofExn exc = .raises exc := by
    rw [HandlerOutcome.ofExn, hnot, if_neg (by decide)]
  rw [Delivery.progress, RunnerEnv.progress, hhandled, handledOutcome,
    if_pos (jobType_mem_handlers mode), Ended.outcome, houtcome]
  rfl

/-- So it raises to RQ, and leaves the row of a failure. -/
theorem deliver_of_notConnected (n : ℕ) (h : db.jobs.lookup key = some job)
    (htype : job.jobType = mode.jobType) (hnot : exc.NotConnected)
    (hhandled : ((googleChain mode startedAt finishedAt env meanwhile).deliver key n db).handled
      = .raised exc) :
    ((googleChain mode startedAt finishedAt env meanwhile).deliver key n db).ended ≠ .returned () ∧
    ((googleChain mode startedAt finishedAt env meanwhile).deliver key n db).after.jobs.lookup key
      = some ((Progress.recorded (.raises exc)).row
          (.steady (startedAt n) (finishedAt n)) job) := by
  obtain ⟨hrow, -, hended⟩ := (googleChain mode startedAt finishedAt env meanwhile).deliver_spec n h
  rw [htype, progress_of_notConnected n hnot hhandled] at hrow hended
  refine ⟨fun hreturned => ?_, hrow⟩
  obtain ⟨⟨o, ho, hsettled⟩, -⟩ := hended.mp hreturned
  cases ho
  cases hsettled

/-- **Retried all the same.**  When the first execution finds no usable credentials, the job is executed
once and ends in `dead_letter` if and only if it was enqueued with a single attempt. -/
theorem retried_unless_single (mode : Mode) (startedAt finishedAt : ℕ → Instant)
    (env : ℕ → IngestEnv) (meanwhile : ℕ → Store → Store) (key : JobId) (payload : Json)
    {maxAttempts : ℕ} (hmax : 1 ≤ maxAttempts) (db : WorkerDb Store)
    (hfirst : FirstNotConnected ((googleChain mode startedAt finishedAt env meanwhile).deliveries key
      mode.jobType payload maxAttempts db)) :
    let trace := (googleChain mode startedAt finishedAt env meanwhile).deliveries key mode.jobType
      payload maxAttempts db
    trace.length = 1 ∧ lastStatus key trace = some .deadLetter ↔ maxAttempts = 1 := by
  let chain := googleChain mode startedAt finishedAt env meanwhile
  let job := enqueuedJob mode.jobType payload maxAttempts
  let recorded : WorkerDb Store := { db with jobs := db.jobs.insert key job }
  have hrecorded : recorded.jobs.lookup key = some job := Finmap.lookup_insert _
  obtain ⟨first, exc, hhead, hhandled, hnot⟩ := hfirst
  have hretries := max_retryPolicy hmax
  rw [ChainEnv.deliveries] at hhead ⊢
  generalize (retryPolicy maxAttempts).elim 0 (·.max) = retries at hhead hretries ⊢
  obtain rfl : chain.deliver key 1 recorded = first := by
    cases retries <;> exact Option.some.inj hhead
  obtain ⟨hended, hrow⟩ := deliver_of_notConnected 1 hrecorded rfl hnot hhandled
  cases retries with
  | zero =>
      obtain rfl : maxAttempts = 1 := by omega
      refine iff_of_true ⟨rfl, ?_⟩ rfl
      show (((chain.deliver key 1 recorded).after.jobs.lookup key).map (·.status)) = _
      rw [hrow]
      rfl
  | succ retries =>
      have hseveral : maxAttempts ≠ 1 := by omega
      refine iff_of_false ?_ hseveral
      rintro ⟨hlength, -⟩
      have hnonempty := chain.redeliveries_ne_nil key retries 2 (chain.deliver key 1 recorded).after
      rw [ChainEnv.redeliveries, if_neg hended, List.length_cons, Nat.add_eq_right,
        List.length_eq_zero_iff] at hlength
      exact hnonempty hlength

end AnyCipher

/-! ## A revoked grant

A credential that was good until Google refused its refresh token. -/

open scoped PlainCipher

/-- A connected credential with a selected profile, whose access token is gone. -/
def revokedCredential : SourceCredential where
  status := .connected
  accountId := some "accounts-1"
  locationId := some "locations-1"
  accessTokenEncrypted := none
  refreshTokenEncrypted := some (encrypt "revoked")
  tokenExpiresAt := none
  scopes := []
  connectedAt := some 0
  updatedAt := 0
  connected_has_token _ := rfl

def revokedStore : Store := ⟨Finmap.singleton "google" revokedCredential, .empty⟩

/-- Google refuses every refresh, and every request. -/
def refusingGoogle : GoogleApi where
  answer _ _ := .response 401 "" (.error ⟨"JSONDecodeError", ""⟩)
  toNormalizedReview _ := .ok none
  str _ := ""

def refusingEnv (n : ℕ) : IngestEnv :=
  .ofGoogle refusingGoogle n (.response 400 "invalid_grant" (.ok {})) ⟨n, n, n⟩ (fun _ => .proceeds) 3

/-- Nothing but Google goes wrong. -/
def revokedChain : ChainEnv Store :=
  googleChain .incremental (fun n => n) (fun n => n) refusingEnv (fun _ store => store)

def rejectedError : Exn :=
  sourceNotConnectedError "Google rejected the refresh token; the connection must be re-authorized."

/-- The first execution finds that Google rejects the refresh token; the job is executed twice more. -/
theorem rejected_grant_retried :
    let trace := revokedChain.deliveries 7 "google_sync" (.obj []) 3 ⟨∅, revokedStore⟩
    FirstNotConnected trace ∧ trace.length = 3 := by
  refine ⟨⟨_, rejectedError, rfl, ?_, rfl⟩, ?_⟩ <;> decide

/-- With a single attempt it is not. -/
theorem retried_unless_single_attempt :
    let trace := revokedChain.deliveries 7 "google_sync" (.obj []) 1 ⟨∅, revokedStore⟩
    trace.length = 1 ∧ lastStatus 7 trace = some .deadLetter :=
  (retried_unless_single .incremental _ _ refusingEnv _ 7 (.obj []) le_rfl ⟨∅, revokedStore⟩
    ⟨_, rejectedError, rfl, by decide, rfl⟩).mpr rfl

end ReviewSignal
