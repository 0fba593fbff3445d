import ReviewSignal.Foundations.Pool
import ReviewSignal.Repositories.CredentialStatements

/-!
# Concurrent requests on the Google credential

Any number of `complete`, `select_location` and `disconnect` requests and of access-token resolutions,
in the API and in the workers, taking turns between what they read, the network and what they write.
Each loads the credential and later sends one UPDATE, or the INSERT of a first grant, right before its
commit.

PostgreSQL is at READ COMMITTED.  A load sees the committed row; an UPDATE is carried out on the row
as it is by then; an INSERT is refused when a row of the source exists by then.  A request may fail or
die at any step.

`select_location` reads the row twice: `ensure_connected` lets go of what it read, and `set_location`
loads the row it assigns to.

* `complete_alone`, `selectLocation_alone`, `disconnect_alone`, `resolve_alone` — with nothing in between,
  the steps of a request are the function of the service.  These connect the system to the sequential
  modules.
* `connectionStep_move` — the moves a step can be, with their guards.  The results about runs go by cases on
  them, and never look at `connectionStep`.

Three results rest on this module: `Disconnection`, `SelectedProfile` and `StaleRefresh`, each about other
columns of the one row.
-/

namespace ReviewSignal

open GoogleConnectionService

variable [Cipher]

namespace GoogleConnectionService

/-- `complete` up to the call of `upsert`: what it will store, given the answer to the code. -/
def exchange (now : Instant) (answer : TokenAnswer) : Except Exn Grant :=
  match answer with
  | .unreachable exc =>
      .error (googleApiError ("Could not reach Google's OAuth token endpoint: " ++ exc.message))
  | .response statusCode text body =>
      if ¬ (200 ≤ statusCode ∧ statusCode < 300) then
        .error (googleApiError
          ("Google token exchange failed (" ++ toString statusCode ++ "): " ++ text))
      else
        match body with
        | .error exc => .error exc
        | .ok payload =>
            if missing payload.refreshToken then
              .error (googleApiError ("Google did not grant offline access (no refresh_token in " ++
                "the response); reconnect and approve offline access."))
            else .ok {
              refreshToken := payload.refreshToken.getD ""
              accessToken := if missing payload.accessToken then none else payload.accessToken
              tokenExpiresAt := payload.expiresIn.map fun expiresIn => now + seconds expiresIn
              scopes := splitScopes payload.scope }

end GoogleConnectionService

/-- The committed table.  `lastGrant` is the grant the last `complete` committed; the code has no such
record. -/
structure ConnectionStore where
  credentials : CredentialTable
  lastGrant : Option Grant

/-- A request or a resolution. -/
inductive ConnectionRequest where
  | complete
  | selectLocation (accountId locationId : String)
  | disconnect
  | resolve
  deriving DecidableEq

/-- Where it is. -/
inductive ConnectionPhase where
  | completing
  | granted (grant : Grant)
  | storing (grant : Grant) (loaded : Option SourceCredential)
  | selecting (accountId locationId : String)
  /-- `ensure_connected` has passed. -/
  | guarded (accountId locationId : String)
  | locating (accountId locationId : String) (loaded : SourceCredential)
  | disconnecting
  | clearing (loaded : SourceCredential)
  | resolving
  /-- The token endpoint is asked. -/
  | refreshing (loaded : SourceCredential)
  | finished
  deriving DecidableEq

def ConnectionRequest.start : ConnectionRequest → ConnectionPhase
  | .complete => .completing
  | .selectLocation accountId locationId => .selecting accountId locationId
  | .disconnect => .disconnecting
  | .resolve => .resolving

inductive ConnectionStep where
  /-- The answer to the authorization code. -/
  | exchange (now : Instant) (answer : TokenAnswer)
  /-- The next read of the row. -/
  | load (now : Instant)
  | write (now : Instant)
  /-- The answer to the refresh token, and what it writes. -/
  | refresh (now : Instant) (answer : TokenAnswer)
  | stop

namespace ConnectionStore

/-- The row of the source. -/
def row (store : ConnectionStore) : Option SourceCredential :=
  CredentialRepository.get source store.credentials

def put (credential : SourceCredential) (store : ConnectionStore) : ConnectionStore :=
  { store with credentials := store.credentials.insert source credential }

/-- An UPDATE and its commit.  Nothing is left of it when there is no row, or a constraint refuses
it. -/
def update (writes : CredentialWrites) (store : ConnectionStore) : Option ConnectionStore :=
  (store.row.bind writes.apply).map fun after => store.put after

/-- The last write of `complete`. -/
def storeGrant (grant : Grant) (now : Instant) (loaded : Option SourceCredential)
    (store : ConnectionStore) : Option ConnectionStore :=
  match loaded, store.row with
  | none, none => some { store.put (grant.row now) with lastGrant := some grant }
  | none, some _ => none  -- the unique constraint on `source`
  | some loaded, _ =>
      (store.update (CredentialStatements.upsert grant now loaded)).map fun store =>
        { store with lastGrant := some grant }

end ConnectionStore

variable {ι : Type}

/-- One step of one request. -/
def connectionStep (_ : ι) (step : ConnectionStep) (store : ConnectionStore)
    (phase : ConnectionPhase) : Option (ConnectionStore × ConnectionPhase) :=
  match step, phase with
  | .exchange now answer, .completing =>
      match exchange now answer with
      | .error _ => some (store, .finished)
      | .ok grant => some (store, .granted grant)
  | .load _, .granted grant => some (store, .storing grant store.row)
  | .write now, .storing grant loaded =>
      some ((store.storeGrant grant now loaded).getD store, .finished)
  | .load _, .selecting accountId locationId =>
      match ensureConnected store.credentials with
      | .error _ => some (store, .finished)
      | .ok () => some (store, .guarded accountId locationId)
  | .load _, .guarded accountId locationId =>
      match store.row with
      | none => some (store, .finished)
      | some loaded => some (store, .locating accountId locationId loaded)
  | .write now, .locating accountId locationId loaded =>
      some ((store.update (CredentialStatements.setLocation accountId locationId now loaded)).getD
        store, .finished)
  | .load _, .disconnecting =>
      match store.row with
      | none => some (store, .finished)
      | some loaded => some (store, .clearing loaded)
  | .write now, .clearing loaded =>
      some ((store.update (CredentialStatements.markDisconnected now loaded)).getD store, .finished)
  | .load now, .resolving =>
      match GoogleToken.loadCredential source store.credentials with
      | .error _ => some (store, .finished)
      | .ok loaded =>
          if GoogleToken.usable now loaded then some (store, .finished)
          else some (store, .refreshing loaded)
  | .refresh now answer, .refreshing loaded =>
      match GoogleToken.outcome answer with
      | .failed _ => some (store, .finished)
      | .refused =>
          some ((store.update (CredentialStatements.invalidate loaded)).getD store, .finished)
      | .granted accessToken expiresIn =>
          some ((store.update (CredentialStatements.renew accessToken (now + seconds expiresIn) now
            loaded)).getD store, .finished)
  | .stop, .finished => none
  | .stop, _ => some (store, .finished)
  | _, _ => none

/-- No credential is stored, and no request has begun. -/
def connectionStart (request : ι → ConnectionRequest) : Pool ι ConnectionStore ConnectionPhase :=
  ⟨⟨∅, none⟩, fun i => (request i).start⟩

omit [Cipher] in
theorem start_ne_clearing (request : ConnectionRequest) (loaded : SourceCredential) :
    request.start ≠ .clearing loaded := by
  cases request <;> simp [ConnectionRequest.start]

omit [Cipher] in
theorem start_ne_refreshing (request : ConnectionRequest) (loaded : SourceCredential) :
    request.start ≠ .refreshing loaded := by
  cases request <;> simp [ConnectionRequest.start]

/-! ## A request on its own

The row a request loads is the one its UPDATE meets. -/

theorem complete_eq (now : Instant) (answer : TokenAnswer) (table : CredentialTable) :
    complete now answer table = match exchange now answer with
      | .error exc => (.error exc, table)
      | .ok grant => (.ok (), table.insert source (grant.row now)) := by
  rcases answer with exc | ⟨statusCode, text, body⟩
  · rfl
  · by_cases hstatus : 200 ≤ statusCode ∧ statusCode < 300
    · rcases body with exc | payload
      · simp [complete, exchange, hstatus]
      · by_cases hrefresh : missing payload.refreshToken
        · simp [complete, exchange, hstatus, hrefresh]
        · have haccess : (if missing payload.accessToken then none
                else some (encrypt (payload.accessToken.getD "")))
              = (if missing payload.accessToken then none else payload.accessToken).map encrypt := by
            cases payload.accessToken with
            | none => rfl
            | some accessToken => split_ifs <;> rfl
          simp [complete, exchange, hstatus, hrefresh, haccess, CredentialRepository.upsert, Grant.row]
    · simp [complete, exchange, hstatus]

namespace ConnectionStore

variable {store : ConnectionStore} {loaded : SourceCredential}

omit [Cipher] in
theorem update_of_row (h : store.row = some loaded) (writes : CredentialWrites) :
    store.update writes = (writes.apply loaded).map fun after => store.put after := by
  rw [update, h, Option.bind_some]

end ConnectionStore

/-- `complete`, with nothing in between. -/
theorem complete_alone (i : ι) (store : ConnectionStore) (now : Instant) (answer : TokenAnswer)
    {grant : Grant} (h : exchange now answer = .ok grant) :
    ∃ after, exec (Pool.solo connectionStep i) (store, ConnectionRequest.complete.start)
        [.exchange now answer, .load now, .write now] = some (after, .finished) ∧
      after.credentials = (complete now answer store.credentials).2 := by
  have hexec : exec (Pool.solo connectionStep i) (store, ConnectionRequest.complete.start)
      [.exchange now answer, .load now, .write now]
      = some ((store.storeGrant grant now store.row).getD store, .finished) := by
    simp [exec, Pool.solo, connectionStep, ConnectionRequest.start, h]
  refine ⟨_, hexec, ?_⟩
  rw [complete_eq, h]
  cases hrow : store.row with
  | none => simp [ConnectionStore.storeGrant, hrow, ConnectionStore.put]
  | some loaded =>
      simp [ConnectionStore.storeGrant, ConnectionStore.update_of_row hrow,
        CredentialStatements.apply_upsert, ConnectionStore.put]

/-- `select_location`, with nothing in between. -/
theorem selectLocation_alone (i : ι) (store : ConnectionStore) (now : Instant)
    (accountId locationId : String) {loaded : SourceCredential} (h : store.row = some loaded)
    (hguard : ensureConnected store.credentials = .ok ()) :
    ∃ after, exec (Pool.solo connectionStep i)
        (store, (ConnectionRequest.selectLocation accountId locationId).start)
        [.load now, .load now, .write now] = some (after, .finished) ∧
      after.credentials = (selectLocation now accountId locationId store.credentials).2 := by
  refine ⟨_, by simp [exec, Pool.solo, connectionStep, ConnectionRequest.start, h, hguard]; rfl, ?_⟩
  have hget : CredentialRepository.get source store.credentials = some loaded := h
  simp [ConnectionStore.update_of_row h, CredentialStatements.apply_setLocation,
    ConnectionStore.put, selectLocation, hguard, CredentialRepository.setLocation, hget]

/-- `disconnect`, with nothing in between. -/
theorem disconnect_alone (i : ι) (store : ConnectionStore) (now : Instant) {loaded : SourceCredential}
    (h : store.row = some loaded) :
    ∃ after, exec (Pool.solo connectionStep i) (store, ConnectionRequest.disconnect.start)
        [.load now, .write now] = some (after, .finished) ∧
      after.credentials = disconnect now store.credentials := by
  refine ⟨_, by simp [exec, Pool.solo, connectionStep, ConnectionRequest.start, h]; rfl, ?_⟩
  have hget : CredentialRepository.get source store.credentials = some loaded := h
  simp [ConnectionStore.update_of_row h, CredentialStatements.apply_markDisconnected,
    ConnectionStore.put, disconnect, CredentialRepository.markDisconnected, hget]

/-- A resolution that asks for a refresh, with nothing in between. -/
theorem resolve_alone (i : ι) (store : ConnectionStore) (now : Instant) (answer : TokenAnswer)
    {loaded : SourceCredential} (h : GoogleToken.loadCredential source store.credentials = .ok loaded)
    (hexpired : GoogleToken.usable now loaded = false) :
    ∃ after, exec (Pool.solo connectionStep i) (store, ConnectionRequest.resolve.start)
        [.load now, .refresh now answer] = some (after, .finished) ∧
      after.credentials
        = (GoogleToken.resolveAccessToken source now answer loaded store.credentials).2 := by
  have hrow : store.row = some loaded := (GoogleToken.loadCredential_eq_ok.mp h).1
  rw [GoogleToken.resolveAccessToken_of_expired source answer store.credentials hexpired,
    GoogleToken.refresh_eq]
  cases houtcome : GoogleToken.outcome answer with
  | failed exc =>
      refine ⟨store, ?_, rfl⟩
      simp [exec, Pool.solo, connectionStep, ConnectionRequest.start, h, hexpired, houtcome]
  | refused =>
      have hexec : exec (Pool.solo connectionStep i) (store, ConnectionRequest.resolve.start)
          [.load now, .refresh now answer]
          = some ((store.update (CredentialStatements.invalidate loaded)).getD store, .finished) := by
        simp [exec, Pool.solo, connectionStep, ConnectionRequest.start, h, hexpired, houtcome]
      refine ⟨_, hexec, ?_⟩
      simp [ConnectionStore.update_of_row hrow, CredentialStatements.apply_invalidate,
        ConnectionStore.put]
  | granted accessToken expiresIn =>
      have hexec : exec (Pool.solo connectionStep i) (store, ConnectionRequest.resolve.start)
          [.load now, .refresh now answer]
          = some ((store.update (CredentialStatements.renew accessToken (now + seconds expiresIn) now
              loaded)).getD store, .finished) := by
        simp [exec, Pool.solo, connectionStep, ConnectionRequest.start, h, hexpired, houtcome]
      refine ⟨_, hexec, ?_⟩
      simp [ConnectionStore.update_of_row hrow, CredentialStatements.apply_renew,
        ConnectionStore.put]

/-! ## What a step can do

Every step either makes one of the moves, or is quiet: it writes nothing. -/

/-- A step that writes nothing and ends the request. -/
def ConnectionStep.Quiet (step : ConnectionStep) : Prop :=
  (∀ now, step ≠ .write now) ∧
    ∀ now answer, step = .refresh now answer → ∃ exc, GoogleToken.outcome answer = .failed exc

/-- The moves of a request. -/
inductive ConnectionMove (store : ConnectionStore) :
    ConnectionPhase → ConnectionStep → ConnectionStore → ConnectionPhase → Prop
  | exchange {now : Instant} {answer : TokenAnswer} {grant : Grant}
      (hgrant : GoogleConnectionService.exchange now answer = .ok grant) :
      ConnectionMove store .completing (.exchange now answer) store (.granted grant)
  | loadGrant (grant : Grant) (now : Instant) :
      ConnectionMove store (.granted grant) (.load now) store (.storing grant store.row)
  | store (grant : Grant) (now : Instant) (loaded : Option SourceCredential) :
      ConnectionMove store (.storing grant loaded) (.write now)
        ((store.storeGrant grant now loaded).getD store) .finished
  | guard (accountId locationId : String) (now : Instant)
      (hguard : ensureConnected store.credentials = .ok ()) :
      ConnectionMove store (.selecting accountId locationId) (.load now) store
        (.guarded accountId locationId)
  | loadLocation (accountId locationId : String) (now : Instant) {row : SourceCredential}
      (hrow : store.row = some row) :
      ConnectionMove store (.guarded accountId locationId) (.load now) store
        (.locating accountId locationId row)
  | locate (accountId locationId : String) (now : Instant) (loaded : SourceCredential) :
      ConnectionMove store (.locating accountId locationId loaded) (.write now) ((store.update
        (CredentialStatements.setLocation accountId locationId now loaded)).getD store) .finished
  | loadCleared (now : Instant) {row : SourceCredential} (hrow : store.row = some row) :
      ConnectionMove store .disconnecting (.load now) store (.clearing row)
  | clear (now : Instant) (loaded : SourceCredential) :
      ConnectionMove store (.clearing loaded) (.write now)
        ((store.update (CredentialStatements.markDisconnected now loaded)).getD store) .finished
  | loadToken (now : Instant) {loaded : SourceCredential} (hrow : store.row = some loaded)
      (hstatus : loaded.status = .connected) :
      ConnectionMove store .resolving (.load now) store (.refreshing loaded)
  | invalidate (now : Instant) {answer : TokenAnswer} (loaded : SourceCredential)
      (houtcome : GoogleToken.outcome answer = .refused) :
      ConnectionMove store (.refreshing loaded) (.refresh now answer)
        ((store.update (CredentialStatements.invalidate loaded)).getD store) .finished
  | renew (now : Instant) {answer : TokenAnswer} (loaded : SourceCredential) {accessToken : String}
      {expiresIn : ℤ} (houtcome : GoogleToken.outcome answer = .granted accessToken expiresIn) :
      ConnectionMove store (.refreshing loaded) (.refresh now answer)
        ((store.update (CredentialStatements.renew accessToken (now + seconds expiresIn) now
          loaded)).getD store) .finished
  | ended {phase : ConnectionPhase} {step : ConnectionStep} (hquiet : step.Quiet) :
      ConnectionMove store phase step store .finished

variable {i : ι} {step : ConnectionStep} {store store' : ConnectionStore}
  {phase phase' : ConnectionPhase}

/-- **Inversion.** -/
theorem connectionStep_move (h : connectionStep i step store phase = some (store', phase')) :
    ConnectionMove store phase step store' phase' := by
  unfold connectionStep at h
  split at h
  · split at h
    · cases h
      exact .ended ⟨by simp, by simp⟩
    · cases h
      exact .exchange ‹_›
  · cases h
    exact .loadGrant _ _
  · cases h
    exact .store _ _ _
  · split at h
    · cases h
      exact .ended ⟨by simp, by simp⟩
    · cases h
      exact .guard _ _ _ ‹_›
  · split at h
    · cases h
      exact .ended ⟨by simp, by simp⟩
    · cases h
      exact .loadLocation _ _ _ ‹_›
  · cases h
    exact .locate _ _ _ _
  · split at h
    · cases h
      exact .ended ⟨by simp, by simp⟩
    · cases h
      exact .loadCleared _ ‹_›
  · cases h
    exact .clear _ _
  · split at h
    · cases h
      exact .ended ⟨by simp, by simp⟩
    · rename_i loaded hload
      obtain ⟨hrow, hstatus⟩ := GoogleToken.loadCredential_eq_ok.mp hload
      split_ifs at h
      · cases h
        exact .ended ⟨by simp, by simp⟩
      · cases h
        exact .loadToken _ hrow hstatus
  · split at h
    · cases h
      refine .ended ⟨by simp, ?_⟩
      rintro _ _ ⟨⟩
      exact ⟨_, ‹_›⟩
    · cases h
      exact .invalidate _ _ ‹_›
    · cases h
      exact .renew _ _ ‹_›
  · cases h
  · cases h
    exact .ended ⟨by simp, by simp⟩
  · cases h

/-! ## What the writes leave

The row after each UPDATE, column by column, and the grant `lastGrant` tells of. -/

namespace ConnectionStore

variable {row loaded after : SourceCredential} {writes : CredentialWrites}

omit [Cipher] in
@[simp] theorem row_put (credential : SourceCredential) : (store.put credential).row = some credential :=
  Finmap.lookup_insert _

omit [Cipher] in
@[simp] theorem lastGrant_put (credential : SourceCredential) :
    (store.put credential).lastGrant = store.lastGrant := rfl

omit [Cipher] in
/-- An UPDATE that no constraint refuses. -/
theorem update_leaves (hrow : store.row = some row)
    (hcheck : writes.status.getD row.status = .connected →
      (writes.refreshTokenEncrypted.getD row.refreshTokenEncrypted).isSome) :
    ∃ after, store.update writes = some (store.put after) ∧ writes.Leaves row after := by
  obtain ⟨after, happly⟩ : ∃ after, writes.apply row = some after := by
    rw [CredentialWrites.apply, dif_pos hcheck]
    exact ⟨_, rfl⟩
  refine ⟨after, ?_, CredentialStatements.apply_eq_some.mp happly⟩
  rw [update_of_row hrow, happly, Option.map_some]

omit [Cipher] in
theorem setLocation_leaves (accountId locationId : String) (now : Instant) (loaded : SourceCredential)
    (hrow : store.row = some row) :
    ∃ after, store.update (CredentialStatements.setLocation accountId locationId now loaded)
        = some (store.put after) ∧
      (CredentialStatements.setLocation accountId locationId now loaded).Leaves row after :=
  update_leaves hrow row.connected_has_token

theorem renew_leaves (accessToken : String) (tokenExpiresAt now : Instant) (loaded : SourceCredential)
    (hrow : store.row = some row) :
    ∃ after, store.update (CredentialStatements.renew accessToken tokenExpiresAt now loaded)
        = some (store.put after) ∧
      (CredentialStatements.renew accessToken tokenExpiresAt now loaded).Leaves row after :=
  update_leaves hrow row.connected_has_token

omit [Cipher] in
/-- The row was not `invalid` when it was loaded. -/
theorem invalidate_leaves (hloaded : loaded.status ≠ .invalid) (hrow : store.row = some row) :
    ∃ after, store.update (CredentialStatements.invalidate loaded) = some (store.put after) ∧
      (CredentialStatements.invalidate loaded).Leaves row after :=
  update_leaves hrow (by simp [CredentialStatements.invalidate, differing, hloaded])

omit [Cipher] in
/-- An UPDATE leaves the row as it is, or overwrites its columns. -/
theorem update_cases (store : ConnectionStore) (writes : CredentialWrites) :
    (store.update writes).getD store = store ∨
      ∃ row after, store.row = some row ∧ (store.update writes).getD store = store.put after ∧
        writes.Leaves row after := by
  cases hrow : store.row with
  | none => exact .inl (by rw [update, hrow]; rfl)
  | some row =>
      rw [update_of_row hrow]
      cases happly : writes.apply row with
      | none => exact .inl rfl
      | some after => exact .inr ⟨row, after, rfl, rfl, CredentialStatements.apply_eq_some.mp happly⟩

omit [Cipher] in
/-- What an UPDATE keeps of the stored row. -/
theorem forall_row_update {p : SourceCredential → Prop} (h : ∀ row, store.row = some row → p row)
    (hkeeps : ∀ row after, p row → writes.Leaves row after → p after) :
    ∀ row, ((store.update writes).getD store).row = some row → p row := by
  rcases store.update_cases writes with hsame | ⟨row, after, hrow, hput, hleaves⟩
  · rwa [hsame]
  · intro row' hrow'
    rw [hput, row_put, Option.some.injEq] at hrow'
    subst hrow'
    exact hkeeps row after (h row hrow) hleaves

omit [Cipher] in
theorem lastGrant_update (store : ConnectionStore) (writes : CredentialWrites) :
    ((store.update writes).getD store).lastGrant = store.lastGrant := by
  rcases store.update_cases writes with hsame | ⟨row, after, -, hput, -⟩
  · rw [hsame]
  · rw [hput, lastGrant_put]

/-- The last write of a first `complete`. -/
theorem storeGrant_insert (grant : Grant) (now : Instant) (hrow : store.row = none) :
    store.storeGrant grant now none
      = some { store.put (grant.row now) with lastGrant := some grant } := by
  simp only [storeGrant, hrow]

/-- The last write of `complete` on a row. -/
theorem storeGrant_leaves (grant : Grant) (now : Instant) (loaded : SourceCredential)
    (hrow : store.row = some row) :
    ∃ after, store.storeGrant grant now (some loaded)
        = some { store.put after with lastGrant := some grant } ∧
      (CredentialStatements.upsert grant now loaded).Leaves row after := by
  have hcheck : (CredentialStatements.upsert grant now loaded).status.getD row.status = .connected →
      ((CredentialStatements.upsert grant now loaded).refreshTokenEncrypted.getD
        row.refreshTokenEncrypted).isSome := fun _ => rfl
  obtain ⟨after, hupdate, hleaves⟩ := update_leaves hrow hcheck
  exact ⟨after, by simp [storeGrant, hupdate], hleaves⟩

end ConnectionStore

/-- Without a stored row, only a first `complete` leaves one. -/
theorem ConnectionMove.of_none (h : ConnectionMove store phase step store' phase')
    (hrow : store.row = none) :
    store' = store ∨ ∃ grant now,
      store' = { store.put (Grant.row grant now) with lastGrant := some grant } := by
  have hupdate : ∀ writes, store.update writes = none := by
    intro writes
    rw [ConnectionStore.update, hrow]
    rfl
  cases h with
  | exchange | loadGrant | guard | loadLocation | loadCleared | loadToken | ended => exact .inl rfl
  | locate | clear | invalidate | renew => exact .inl (by rw [hupdate, Option.getD_none])
  | store grant now loaded =>
      cases loaded with
      | none =>
          rw [ConnectionStore.storeGrant_insert grant now hrow]
          exact .inr ⟨grant, now, rfl⟩
      | some loaded => exact .inl (by simp [ConnectionStore.storeGrant, hupdate])

/-- What a step leaves, by the move it makes on a stored row, or on none. -/
theorem leaves_iff_of_move [DecidableEq ι] {s : Pool ι ConnectionStore ConnectionPhase}
    {p : ConnectionStore → Prop} {c : SourceCredential → Prop}
    (hmove : ∀ row store' phase', s.shared.row = some row →
      ConnectionMove s.shared (s.proc i) step store' phase' → (p store' ↔ c row))
    (hnone : ∀ store' phase', s.shared.row = none →
      ConnectionMove s.shared (s.proc i) step store' phase' → p store')
    (hdisabled : ∀ row, connectionStep i step s.shared (s.proc i) = none → c row) :
    (∀ s', Pool.step connectionStep s (i, step) = some s' → p s'.shared) ↔
      ∀ row, s.shared.row = some row → c row := by
  cases hact : connectionStep i step s.shared (s.proc i) with
  | none =>
      refine iff_of_true (fun s' h => ?_) fun row _ => hdisabled row hact
      obtain ⟨store', phase', hact', -⟩ := Pool.step_eq_some.mp h
      rw [hact] at hact'
      cases hact'
  | some after =>
      obtain ⟨store', phase'⟩ := after
      have hleaves : (∀ s', Pool.step connectionStep s (i, step) = some s' → p s'.shared) ↔
          p store' := by
        constructor
        · exact fun h => h _ (Pool.step_eq_some.mpr ⟨store', phase', hact, rfl⟩)
        · rintro h s' hs'
          obtain ⟨store₁, phase₁, hact₁, rfl⟩ := Pool.step_eq_some.mp hs'
          obtain ⟨rfl, rfl⟩ := Prod.mk.inj (Option.some.inj (hact.symm.trans hact₁))
          exact h
      rw [hleaves]
      have hmoved := connectionStep_move hact
      cases hrow : s.shared.row with
      | none => exact iff_of_true (hnone store' phase' hrow hmoved) (by simp)
      | some row =>
          rw [hmove row store' phase' hrow hmoved]
          simp

end ReviewSignal
