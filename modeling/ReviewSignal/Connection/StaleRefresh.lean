import ReviewSignal.Services.ConnectionRequests

/-!
# A refresh that outlives its grant

A resolution asks the token endpoint about the refresh token it loaded; by the time of the answer
`complete` may have stored another grant.  Nothing in the code compares the two: the answer is written
into the row of the new grant.

**What is safe** (`refresh_keeps_grant`).  In every run of any requests, the end of a resolution leaves in a
connected row the refresh token of the last grant, and of the row it meets the profile, the scopes and the
time of the connection.  The UPDATE of a refresh has no such column, which is the whole reason.

**What is not** (`stale_answer_written`).  The status and the access token are those of the answer.  A
refusal of the old grant marks the new one as invalid; an access token of the old one is stored under the
new one, and used from there.

Which grant is the last is a record of the model (`lastGrant`): the code keeps none, and that is why it cannot
tell.
-/

namespace ReviewSignal

open GoogleToken (RefreshOutcome outcome)

section AnyCipher

variable [Cipher]

/-- The row holds no refresh token but that of the last grant. -/
def ConnectionStore.HoldsGrant (store : ConnectionStore) : Prop :=
  ∀ row, store.row = some row → row.refreshTokenEncrypted = none ∨
    ∃ grant, store.lastGrant = some grant ∧
      row.refreshTokenEncrypted = some (encrypt grant.refreshToken)

/-- What a resolution leaves of the row it meets. -/
structure RefreshKeeps (outcome : RefreshOutcome) (row after : SourceCredential) : Prop where
  refreshToken : after.refreshTokenEncrypted = row.refreshTokenEncrypted
  accountId : after.accountId = row.accountId
  locationId : after.locationId = row.locationId
  scopes : after.scopes = row.scopes
  connectedAt : after.connectedAt = row.connectedAt
  /-- Only a refused grant is marked. -/
  status : after.status = if outcome = .refused then .invalid else row.status
  /-- Only a granted token is stored. -/
  ungranted : (∀ accessToken expiresIn, outcome ≠ .granted accessToken expiresIn) →
    after.accessTokenEncrypted = row.accessTokenEncrypted ∧
      after.tokenExpiresAt = row.tokenExpiresAt ∧ after.updatedAt = row.updatedAt
  granted : ∀ accessToken expiresIn, outcome = .granted accessToken expiresIn →
    after.accessTokenEncrypted = some (encrypt accessToken)

/-- A step that finishes a resolution keeps what it has to, in the row of the last grant. -/
def KeepsGrant {ι : Type} [DecidableEq ι] (s : Pool ι ConnectionStore ConnectionPhase)
    (e : ι × ConnectionStep) : Prop :=
  ∀ loaded now answer row s', s.proc e.1 = .refreshing loaded → e.2 = .refresh now answer →
    s.shared.row = some row → Pool.step connectionStep s e = some s' →
    ∃ after, s'.shared.row = some after ∧ RefreshKeeps (outcome answer) row after ∧
      (row.status = .connected → ∃ grant, s.shared.lastGrant = some grant ∧
        after.refreshTokenEncrypted = some (encrypt grant.refreshToken))

/-! ## The grant the row holds

`complete` is the only writer of refresh tokens, besides the disconnection that clears them. -/

section Steps

variable {store store' : ConnectionStore} {row after loaded : SourceCredential}
  {writes : CredentialWrites} {phase phase' : ConnectionPhase} {step : ConnectionStep}

/-- An UPDATE that sets no refresh token. -/
theorem ConnectionStore.HoldsGrant.update (h : store.HoldsGrant)
    (hwrites : ∀ token, writes.refreshTokenEncrypted ≠ some (some token)) :
    ((store.update writes).getD store).HoldsGrant := by
  rw [ConnectionStore.HoldsGrant, lastGrant_update]
  refine ConnectionStore.forall_row_update h fun row after hrow hleaves => ?_
  rw [hleaves.refreshTokenEncrypted]
  cases hset : writes.refreshTokenEncrypted with
  | none => exact hrow
  | some token =>
      cases token with
      | none => exact .inl rfl
      | some token => exact absurd hset (hwrites token)

/-- `complete` stores the refresh token of its grant, and is then the last. -/
theorem ConnectionStore.HoldsGrant.storeGrant (h : store.HoldsGrant) (grant : Grant) (now : Instant)
    (loaded : Option SourceCredential) :
    ((store.storeGrant grant now loaded).getD store).HoldsGrant := by
  cases hrow : store.row with
  | none =>
      cases loaded with
      | none =>
          rw [storeGrant_insert grant now hrow]
          intro row hput
          obtain rfl : grant.row now = row := Option.some.inj ((row_put _).symm.trans hput)
          exact .inr ⟨grant, rfl, rfl⟩
      | some loaded => simpa [ConnectionStore.storeGrant, ConnectionStore.update, hrow] using h
  | some row =>
      cases loaded with
      | none => simpa [ConnectionStore.storeGrant, hrow] using h
      | some loaded =>
          obtain ⟨after, hgrant, hleaves⟩ := storeGrant_leaves grant now loaded hrow
          rw [hgrant, Option.getD_some]
          intro row' hput
          obtain rfl : after = row' := Option.some.inj ((row_put _).symm.trans hput)
          exact .inr ⟨grant, rfl, hleaves.refreshTokenEncrypted⟩

theorem ConnectionMove.holdsGrant (h : ConnectionMove store phase step store' phase')
    (hstore : store.HoldsGrant) : store'.HoldsGrant := by
  cases h with
  | exchange | loadGrant | guard | loadLocation | loadCleared | loadToken | ended => exact hstore
  | store grant now loaded => exact hstore.storeGrant grant now loaded
  | locate => exact hstore.update (by simp [CredentialStatements.setLocation])
  | clear now loaded =>
      refine hstore.update fun token hset => ?_
      simp only [CredentialStatements.markDisconnected, CredentialStatements.differingToken, differing]
        at hset
      split_ifs at hset
      cases hset
  | invalidate => exact hstore.update (by simp [CredentialStatements.invalidate])
  | renew => exact hstore.update (by simp [CredentialStatements.renew])

/-- What a resolution asks about was connected when it loaded it. -/
def ConnectionPhase.LoadedConnected (phase : ConnectionPhase) : Prop :=
  ∀ loaded, phase = .refreshing loaded → loaded.status = .connected

theorem ConnectionMove.loadedConnected (h : ConnectionMove store phase step store' phase') :
    phase'.LoadedConnected := by
  rintro loaded rfl
  cases h with
  | loadToken now hrow hstatus => exact hstatus

/-! ## The answer

The three ends of a resolution, on whatever row they meet. -/

theorem refreshKeeps_invalidate (hloaded : loaded.status = .connected)
    (h : (CredentialStatements.invalidate loaded).Leaves row after) :
    RefreshKeeps .refused row after where
  refreshToken := h.refreshTokenEncrypted
  accountId := h.accountId
  locationId := h.locationId
  scopes := h.scopes
  connectedAt := h.connectedAt
  status := by
    have hstatus : after.status = written loaded.status .invalid row.status := h.status
    rw [hstatus, written_of_ne (by simp [hloaded])]
    rfl
  ungranted _ := ⟨h.accessTokenEncrypted, h.tokenExpiresAt, h.updatedAt⟩
  granted := nofun

theorem refreshKeeps_renew {accessToken : String} {expiresIn : ℤ} {expiresAt now : Instant}
    (h : (CredentialStatements.renew accessToken expiresAt now loaded).Leaves row after) :
    RefreshKeeps (.granted accessToken expiresIn) row after where
  refreshToken := h.refreshTokenEncrypted
  accountId := h.accountId
  locationId := h.locationId
  scopes := h.scopes
  connectedAt := h.connectedAt
  status := h.status
  ungranted hnot := absurd rfl (hnot accessToken expiresIn)
  granted := by
    rintro _ _ ⟨⟩
    exact h.accessTokenEncrypted

theorem refreshKeeps_failed (exc : Exn) (row : SourceCredential) : RefreshKeeps (.failed exc) row row :=
  ⟨rfl, rfl, rfl, rfl, rfl, rfl, fun _ => ⟨rfl, rfl, rfl⟩, nofun⟩

/-- **One answer, on any stored row.** -/
theorem ConnectionMove.refreshKeeps {now : Instant} {answer : TokenAnswer}
    (h : ConnectionMove store (.refreshing loaded) (.refresh now answer) store' phase')
    (hloaded : loaded.status = .connected) (hrow : store.row = some row) :
    ∃ after, store'.row = some after ∧ RefreshKeeps (outcome answer) row after := by
  cases h with
  | ended hquiet =>
      obtain ⟨exc, hfailed⟩ := hquiet.2 now answer rfl
      rw [hfailed]
      exact ⟨row, hrow, refreshKeeps_failed exc row⟩
  | invalidate _ _ houtcome =>
      have hnot : loaded.status ≠ .invalid := by simp [hloaded]
      obtain ⟨after, hupdate, hleaves⟩ := ConnectionStore.invalidate_leaves hnot hrow
      rw [hupdate, houtcome]
      exact ⟨after, ConnectionStore.row_put after, refreshKeeps_invalidate hloaded hleaves⟩
  | @renew _ _ _ accessToken expiresIn houtcome =>
      obtain ⟨after, hupdate, hleaves⟩ := ConnectionStore.renew_leaves accessToken
        (now + seconds expiresIn) now loaded hrow
      rw [hupdate, houtcome]
      exact ⟨after, ConnectionStore.row_put after, refreshKeeps_renew hleaves⟩

end Steps

/-! ## Runs

A resolution that is waiting loaded a connected row, and the stored row holds no refresh token but the
last. -/

variable {ι : Type}

/-- Before and after every step. -/
def GrantInv (s : Pool ι ConnectionStore ConnectionPhase) : Prop :=
  s.Holds ConnectionStore.HoldsGrant fun _ _ => ConnectionPhase.LoadedConnected

theorem grantInv_start (request : ι → ConnectionRequest) : GrantInv (connectionStart request) := by
  refine ⟨?_, fun i loaded hphase => ?_⟩
  · rintro row hrow
    cases hrow
  · exact absurd hphase (start_ne_refreshing _ loaded)

variable [DecidableEq ι] {s s' : Pool ι ConnectionStore ConnectionPhase} {e : ι × ConnectionStep}

theorem grantInv_step (hs : GrantInv s) (h : Pool.step connectionStep s e = some s') : GrantInv s' := by
  obtain ⟨i, step⟩ := e
  obtain ⟨store', phase', hact, rfl⟩ := Pool.step_eq_some.mp h
  have hmove := connectionStep_move hact
  exact .step (hmove.holdsGrant hs.shared) hmove.loadedConnected fun j _ => hs.proc j

theorem keepsGrant_of_inv (hs : GrantInv s) : KeepsGrant s e := by
  obtain ⟨i, step⟩ := e
  rintro loaded now answer row s' hphase rfl hrow h
  obtain ⟨store', phase', hact, rfl⟩ := Pool.step_eq_some.mp h
  have hmove := connectionStep_move hact
  rw [hphase] at hmove
  obtain ⟨after, hafter, hkeeps⟩ := hmove.refreshKeeps (hs.proc i loaded hphase) hrow
  refine ⟨after, hafter, hkeeps, fun hconnected => ?_⟩
  rw [hkeeps.refreshToken]
  rcases hs.shared row hrow with hnone | hgrant
  · -- a connected row has a refresh token
    simpa [hnone] using row.connected_has_token hconnected
  · exact hgrant

/-- **A late answer and the grant.**  In a run of any requests and resolutions, whatever grant a
resolution loaded, its end leaves the refresh token of the last grant in a connected row, and of the
rest what `RefreshKeeps` says. -/
theorem refresh_keeps_grant (request : ι → ConnectionRequest) (events : List (ι × ConnectionStep)) :
    Along (Pool.step connectionStep) KeepsGrant (connectionStart request) events := by
  have hiff : Along (Pool.step connectionStep) KeepsGrant (connectionStart request) events ↔
      Along (Pool.step connectionStep) (fun _ _ => True) (connectionStart request) events :=
    Along.iff_of_invariant (fun s e hs => iff_of_true (keepsGrant_of_inv hs) trivial)
      (fun s e s' hs _ => grantInv_step hs) (grantInv_start request)
  exact hiff.mpr (.trivial _ events)

end AnyCipher

/-! ## A reconnection while a worker waits

The worker asks with the first grant and is answered after the second one is stored. -/

open scoped PlainCipher

/-- A connection, a resolution of a worker, and a reconnection. -/
def reconnectedMeanwhile : Fin 3 → ConnectionRequest
  | 0 => .complete
  | 1 => .resolve
  | 2 => .complete

/-- The answers to the two codes. -/
def grantAnswer (refreshToken accessToken : String) : TokenAnswer :=
  .response 200 "" (.ok {
    refreshToken := some refreshToken
    accessToken := some accessToken
    expiresIn := some 3600 })

/-- The worker loads the first grant, whose access token has expired, and asks for another; the second
grant is committed before the answer. -/
def lateAnswer {ι : Type} (first worker second : ι) (answer : TokenAnswer) :
    List (ι × ConnectionStep) :=
  [(first, .exchange 0 (grantAnswer "first" "a")), (first, .load 0), (first, .write 0),
    (worker, .load (seconds 3600)),
    (second, .exchange (seconds 3601) (grantAnswer "second" "b")), (second, .load (seconds 3601)),
    (second, .write (seconds 3601)),
    (worker, .refresh (seconds 3602) answer)]

/-- Whether the first grant is refused or renewed, the answer is written into the row of the second. -/
theorem stale_answer_written :
    (∃ s, exec (Pool.step connectionStep) (connectionStart reconnectedMeanwhile)
        (lateAnswer 0 1 2 (.response 400 "" (.ok {}))) = some s ∧
      ∃ row, s.shared.row = some row ∧ row.refreshTokenEncrypted = some (encrypt "second") ∧
        row.status = .invalid) ∧
    ∃ s, exec (Pool.step connectionStep) (connectionStart reconnectedMeanwhile)
        (lateAnswer 0 1 2 (.response 200 "" (.ok { accessToken := some "c" }))) = some s ∧
      ∃ row, s.shared.row = some row ∧ row.refreshTokenEncrypted = some (encrypt "second") ∧
        row.accessTokenEncrypted = some (encrypt "c") ∧
        row.tokenExpiresAt = some (seconds 7202) :=
  ⟨⟨_, rfl, _, rfl, rfl, rfl⟩, ⟨_, rfl, _, rfl, rfl, rfl, rfl⟩⟩

end ReviewSignal
