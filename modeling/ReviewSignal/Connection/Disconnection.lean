import ReviewSignal.Services.ConnectionRequests

/-!
# What a disconnected row holds

`mark_disconnected` clears both tokens, but only the columns that were set when it loaded the row,
and a refresh or a reconnection that loaded the row before it writes tokens into the disconnected row
without a look at its status.  A comment in `credentials.py` rules that out: a disconnect must not leave
ciphertext behind.

* `WriteUndisturbed` — the condition on a write, on the row it meets: three ways in which a row can have
  changed between the load of a request and its UPDATE.
* `ConnectionMove.noCiphertext_iff` — one move on a stored row leaves no ciphertext in a disconnected row
  exactly when it is undisturbed.
* **`no_ciphertext_iff`** — over runs of any requests and resolutions: every row reached that is
  `disconnected` holds no token if and only if every write of the run is undisturbed.
* `refresh_after_disconnect` — a user disconnects while a worker waits for the token endpoint, and the row is
  left with the new access token.

The condition speaks of what a request loaded and of the stored row, both before the write.  Loads and steps
that end a request write nothing and are always undisturbed.
-/

namespace ReviewSignal

section AnyCipher

variable [Cipher]

/-- A disconnected row holds no token. -/
def SourceCredential.NoCiphertext (row : SourceCredential) : Prop :=
  row.status = .disconnected → row.accessTokenEncrypted = none ∧ row.refreshTokenEncrypted = none

instance (row : SourceCredential) : Decidable row.NoCiphertext :=
  inferInstanceAs (Decidable (_ → _))

/-- The same of the stored row, if there is one. -/
def ConnectionStore.NoCiphertext (store : ConnectionStore) : Prop :=
  ∀ row, store.row = some row → row.NoCiphertext

/-- **The condition on a write**, on the row it meets.  A `complete` that loaded a connected row does
not meet one disconnected since; a `disconnect` that loaded a token column as null does not meet one
set since; and a refresh does not write an access token into a row disconnected since its load. -/
def WriteUndisturbed (phase : ConnectionPhase) (step : ConnectionStep) (row : SourceCredential) :
    Prop :=
  match phase, step with
  | .storing _ (some loaded), .write _ =>
      loaded.status = .connected → row.status ≠ .disconnected
  | .clearing loaded, .write _ =>
      loaded.status ≠ .disconnected →
        (loaded.accessTokenEncrypted = none → row.accessTokenEncrypted = none) ∧
        (loaded.refreshTokenEncrypted = none → row.refreshTokenEncrypted = none)
  | .refreshing _, .refresh _ answer =>
      (∃ accessToken expiresIn, GoogleToken.outcome answer = .granted accessToken expiresIn) →
        row.status ≠ .disconnected
  | _, _ => True

variable {ι : Type} [DecidableEq ι]

/-- The condition on a step. -/
def StepUndisturbed (s : Pool ι ConnectionStore ConnectionPhase) (e : ι × ConnectionStep) : Prop :=
  ∀ row, s.shared.row = some row → WriteUndisturbed (s.proc e.1) e.2 row

/-- The step leaves no ciphertext in a disconnected row. -/
def LeavesNoCiphertext (s : Pool ι ConnectionStore ConnectionPhase) (e : ι × ConnectionStep) : Prop :=
  ∀ s', Pool.step connectionStep s e = some s' → s'.shared.NoCiphertext

/-! ## The three writes

Each of the five UPDATEs and the INSERT, on any stored row: which of them can leave a token in a
disconnected one. -/

section Writes

variable {row loaded after : SourceCredential} {now : Instant} {store : ConnectionStore}

omit [Cipher] in
theorem noCiphertext_put : (store.put row).NoCiphertext ↔ row.NoCiphertext := by
  simp [ConnectionStore.NoCiphertext]

/-- `complete` sets a refresh token. -/
theorem noCiphertext_upsert (grant : Grant)
    (h : (CredentialStatements.upsert grant now loaded).Leaves row after) :
    after.NoCiphertext ↔ (loaded.status = .connected → row.status ≠ .disconnected) := by
  have hstatus : after.status = written loaded.status .connected row.status := h.status
  have htoken : after.refreshTokenEncrypted = some (encrypt grant.refreshToken) :=
    h.refreshTokenEncrypted
  by_cases hloaded : loaded.status = .connected
  · rw [hloaded, written_same] at hstatus
    simp [SourceCredential.NoCiphertext, hstatus, htoken, hloaded]
  · rw [written_of_ne hloaded] at hstatus
    simp [SourceCredential.NoCiphertext, hstatus, hloaded]

/-- A refresh sets an access token. -/
theorem noCiphertext_renew (accessToken : String) (tokenExpiresAt : Instant)
    (h : (CredentialStatements.renew accessToken tokenExpiresAt now loaded).Leaves row after) :
    after.NoCiphertext ↔ row.status ≠ .disconnected := by
  have hstatus : after.status = row.status := h.status
  have htoken : after.accessTokenEncrypted = some (encrypt accessToken) := h.accessTokenEncrypted
  simp [SourceCredential.NoCiphertext, hstatus, htoken]

omit [Cipher] in
/-- `disconnect` clears what it loaded. -/
theorem noCiphertext_markDisconnected (hloaded : loaded.NoCiphertext) (hrow : row.NoCiphertext)
    (h : (CredentialStatements.markDisconnected now loaded).Leaves row after) :
    after.NoCiphertext ↔ (loaded.status ≠ .disconnected →
      (loaded.accessTokenEncrypted = none → row.accessTokenEncrypted = none) ∧
      (loaded.refreshTokenEncrypted = none → row.refreshTokenEncrypted = none)) := by
  have hstatus : after.status = written loaded.status .disconnected row.status := h.status
  have haccess : after.accessTokenEncrypted
      = written loaded.accessTokenEncrypted none row.accessTokenEncrypted := h.accessTokenEncrypted
  have hrefresh : after.refreshTokenEncrypted
      = written loaded.refreshTokenEncrypted none row.refreshTokenEncrypted := h.refreshTokenEncrypted
  have hcleared : ∀ loaded stored : Option Ciphertext,
      written loaded none stored = none ↔ (loaded = none → stored = none) := by
    intro loaded stored
    by_cases hnone : loaded = none
    · simp [hnone]
    · simp [written_of_ne hnone, hnone]
  by_cases hdisconnected : loaded.status = .disconnected
  · -- the row was disconnected already, so that only `updated_at` is sent
    obtain ⟨hnoAccess, hnoRefresh⟩ := hloaded hdisconnected
    rw [hdisconnected, written_same] at hstatus
    rw [hnoAccess, written_same] at haccess
    rw [hnoRefresh, written_same] at hrefresh
    refine iff_of_true (fun hafter => ?_) fun h => absurd hdisconnected h
    rw [haccess, hrefresh]
    exact hrow (hstatus.symm.trans hafter)
  · rw [written_of_ne hdisconnected] at hstatus
    simp [SourceCredential.NoCiphertext, hstatus, haccess, hrefresh, hcleared, hdisconnected]

omit [Cipher] in
/-- A write of neither the tokens nor the status `disconnected` leaves no ciphertext behind. -/
theorem noCiphertext_of_kept (hrow : row.NoCiphertext)
    (haccess : after.accessTokenEncrypted = row.accessTokenEncrypted)
    (hrefresh : after.refreshTokenEncrypted = row.refreshTokenEncrypted)
    (hstatus : after.status = .disconnected → row.status = .disconnected) : after.NoCiphertext := by
  intro hafter
  rw [haccess, hrefresh]
  exact hrow (hstatus hafter)

omit [Cipher] in
theorem noCiphertext_setLocation {accountId locationId : String} (hrow : row.NoCiphertext)
    (h : (CredentialStatements.setLocation accountId locationId now loaded).Leaves row after) :
    after.NoCiphertext :=
  noCiphertext_of_kept hrow h.accessTokenEncrypted h.refreshTokenEncrypted fun hafter =>
    h.status.symm.trans hafter

omit [Cipher] in
theorem noCiphertext_invalidate (hrow : row.NoCiphertext)
    (h : (CredentialStatements.invalidate loaded).Leaves row after) : after.NoCiphertext := by
  refine noCiphertext_of_kept hrow h.accessTokenEncrypted h.refreshTokenEncrypted fun hafter => ?_
  have hstatus : after.status = written loaded.status .invalid row.status := h.status
  rcases written_or loaded.status .invalid row.status with hnew | hkept
  · rw [hstatus, hnew] at hafter
    cases hafter
  · rw [← hkept, ← hstatus]
    exact hafter

end Writes

/-! ## Steps

What a disconnection has loaded is remembered with its phase, so the invariant speaks of the requests as well
as of the row. -/

section Steps

variable {store store' : ConnectionStore} {phase phase' : ConnectionPhase} {step : ConnectionStep}
  {row : SourceCredential}

/-- What a disconnection has loaded was in order. -/
def ConnectionPhase.LoadedInOrder (phase : ConnectionPhase) : Prop :=
  ∀ loaded, phase = .clearing loaded → loaded.NoCiphertext

omit [Cipher] in
theorem writeUndisturbed_of_quiet (hquiet : step.Quiet) : WriteUndisturbed phase step row := by
  obtain ⟨hwrite, hrefresh⟩ := hquiet
  unfold WriteUndisturbed
  split
  · exact absurd rfl (hwrite _)
  · exact absurd rfl (hwrite _)
  · rintro ⟨accessToken, expiresIn, hgranted⟩
    obtain ⟨exc, hfailed⟩ := hrefresh _ _ rfl
    rw [hgranted] at hfailed
    cases hfailed
  · trivial

/-- **One move on a stored row** leaves no ciphertext behind exactly when it is undisturbed. -/
theorem ConnectionMove.noCiphertext_iff (h : ConnectionMove store phase step store' phase')
    (hstore : store.NoCiphertext) (hphase : phase.LoadedInOrder) (hrow : store.row = some row) :
    store'.NoCiphertext ↔ WriteUndisturbed phase step row := by
  have hrow' := hstore row hrow
  cases h with
  | exchange | loadGrant | guard | loadLocation | loadCleared | loadToken =>
      exact iff_of_true hstore trivial
  | ended hquiet => exact iff_of_true hstore (writeUndisturbed_of_quiet hquiet)
  | store grant now loaded =>
      cases loaded with
      | none =>
          refine iff_of_true ?_ trivial
          simpa [ConnectionStore.storeGrant, hrow] using hstore
      | some loaded =>
          obtain ⟨after, hgrant, hleaves⟩ := ConnectionStore.storeGrant_leaves grant now loaded hrow
          rw [hgrant, Option.getD_some]
          exact noCiphertext_put.trans (noCiphertext_upsert grant hleaves)
  | locate accountId locationId now loaded =>
      refine iff_of_true ?_ trivial
      exact ConnectionStore.forall_row_update hstore fun row after => noCiphertext_setLocation
  | clear now loaded =>
      have hcheck : (differing loaded.status .disconnected).getD row.status = .connected →
          ((CredentialStatements.differingToken loaded.refreshTokenEncrypted none).getD
            row.refreshTokenEncrypted).isSome := by
        intro hconnected
        by_cases hdisconnected : loaded.status = .disconnected
        · have hnone := (hphase loaded rfl hdisconnected).2
          rw [hdisconnected] at hconnected
          rw [hnone]
          have hstatus : row.status = .connected := by
            simpa [differing] using hconnected
          simpa [CredentialStatements.differingToken, differing] using row.connected_has_token hstatus
        · simp [differing, hdisconnected] at hconnected
      obtain ⟨after, hupdate, hleaves⟩ : ∃ after,
          store.update (CredentialStatements.markDisconnected now loaded) = some (store.put after) ∧
          (CredentialStatements.markDisconnected now loaded).Leaves row after :=
        ConnectionStore.update_leaves hrow hcheck
      rw [hupdate, Option.getD_some, noCiphertext_put]
      exact noCiphertext_markDisconnected (hphase loaded rfl) hrow' hleaves
  | invalidate now loaded houtcome =>
      refine iff_of_true ?_ ?_
      · exact ConnectionStore.forall_row_update hstore fun row after => noCiphertext_invalidate
      · rintro ⟨accessToken, expiresIn, hgranted⟩
        rw [houtcome] at hgranted
        cases hgranted
  | @renew now answer loaded accessToken expiresIn houtcome =>
      obtain ⟨after, hupdate, hleaves⟩ := ConnectionStore.renew_leaves accessToken
        (now + seconds expiresIn) now loaded hrow
      rw [hupdate, Option.getD_some, noCiphertext_put, noCiphertext_renew _ _ hleaves]
      exact ⟨fun h _ => h, fun h => h ⟨accessToken, expiresIn, houtcome⟩⟩

/-- Without a stored row, there is none to disconnect. -/
theorem ConnectionMove.noCiphertext_of_none (h : ConnectionMove store phase step store' phase')
    (hrow : store.row = none) : store'.NoCiphertext := by
  rcases h.of_none hrow with rfl | ⟨grant, now, rfl⟩
  · simp [ConnectionStore.NoCiphertext, hrow]
  · have hgrant : (grant.row now).NoCiphertext := nofun
    exact noCiphertext_put.mpr hgrant

/-- The steps the condition is about are always possible. -/
theorem writeUndisturbed_of_disabled {ι : Type} {i : ι}
    (h : connectionStep i step store phase = none) : WriteUndisturbed phase step row := by
  unfold WriteUndisturbed
  split
  · cases h
  · cases h
  · rw [connectionStep] at h
    split at h <;> cases h
  · trivial

end Steps

/-! ## Runs

The invariant before and after every undisturbed step; a disturbed one breaks it on the spot. -/

/-- Before and after every undisturbed step. -/
def DisconnectionInv (s : Pool ι ConnectionStore ConnectionPhase) : Prop :=
  s.Holds ConnectionStore.NoCiphertext fun _ _ => ConnectionPhase.LoadedInOrder

variable {s s' : Pool ι ConnectionStore ConnectionPhase} {e : ι × ConnectionStep}

theorem leavesNoCiphertext_iff (hs : DisconnectionInv s) :
    LeavesNoCiphertext s e ↔ StepUndisturbed s e := by
  refine leaves_iff_of_move (fun row store' phase' hrow hmove => ?_)
    (fun store' phase' hrow hmove => hmove.noCiphertext_of_none hrow)
    fun row hact => writeUndisturbed_of_disabled hact
  exact hmove.noCiphertext_iff hs.shared (hs.proc e.1) hrow

theorem disconnectionInv_step (hs : DisconnectionInv s) (hc : StepUndisturbed s e)
    (h : Pool.step connectionStep s e = some s') : DisconnectionInv s' := by
  have hshared := (leavesNoCiphertext_iff hs).mpr hc s' h
  obtain ⟨i, step⟩ := e
  obtain ⟨store', phase', hact, rfl⟩ := Pool.step_eq_some.mp h
  refine .step hshared ?_ fun j _ => hs.proc j
  have hmove := connectionStep_move hact
  rintro loaded rfl
  generalize s.proc i = phase at hmove
  cases hmove with
  | loadCleared now hrow => exact hs.shared loaded hrow

/-- **No ciphertext in a disconnected row.**  In a run of any requests and resolutions, every row
reached that is `disconnected` holds no token if and only if every write of the run is undisturbed. -/
theorem no_ciphertext_iff (request : ι → ConnectionRequest) (events : List (ι × ConnectionStep)) :
    Along (Pool.step connectionStep) LeavesNoCiphertext (connectionStart request) events ↔
      Along (Pool.step connectionStep) StepUndisturbed (connectionStart request) events := by
  refine Along.iff_of_invariant (fun s e => leavesNoCiphertext_iff)
    (fun s e s' => disconnectionInv_step) ⟨?_, fun i loaded hphase => ?_⟩
  · rintro row hrow
    cases hrow
  · exact absurd hphase (start_ne_clearing _ loaded)

end AnyCipher

/-! ## A disconnection while a worker waits

The worker's answer arrives after the disconnection is committed. -/

open scoped PlainCipher

/-- A reconnection, a resolution of a worker, and a disconnection. -/
def disconnectedMeanwhile : Fin 3 → ConnectionRequest
  | 0 => .complete
  | 1 => .resolve
  | 2 => .disconnect

/-- The token endpoint's answer to the code: a refresh token only. -/
def offlineAnswer (refreshToken : String) : TokenAnswer :=
  .response 200 "" (.ok { refreshToken := some refreshToken })

/-- Its answer to the refresh token. -/
def refreshAnswer (accessToken : String) : TokenAnswer :=
  .response 200 "" (.ok { accessToken := some accessToken })

/-- The user disconnects while the worker waits for the token endpoint, which leaves the new access
token in the disconnected row. -/
theorem refresh_after_disconnect : ∃ s,
    exec (Pool.step connectionStep) (connectionStart disconnectedMeanwhile)
      [(0, .exchange 0 (offlineAnswer "grant")), (0, .load 0), (0, .write 0), (1, .load 1),
        (2, .load 2), (2, .write 2), (1, .refresh 3 (refreshAnswer "token"))] = some s ∧
    ∃ row, s.shared.row = some row ∧ row.status = .disconnected ∧
      row.accessTokenEncrypted = some (encrypt "token") :=
  ⟨_, rfl, _, rfl, rfl, rfl⟩

end ReviewSignal
