import ReviewSignal.Foundations.ColumnUpdate
import ReviewSignal.Services.GoogleConnection

/-!
# The statements behind a change of the credential

Every request loads the row of its source and assigns to some of its columns; the flush sends one
UPDATE of the columns whose value is no longer the loaded one.  Tokens are encrypted with a fresh
initialisation vector, so that a newly encrypted token never equals the stored one and is always
sent.  By the time of the UPDATE the stored row may be another; PostgreSQL refuses it when the row it
would leave is `connected` without a refresh token.

* `CredentialWrites` — the SET clause of an UPDATE, a value or nothing for each column, and `apply`, the row
  it leaves.
* `apply_upsert` and the like — the undisturbed case: on the row that was loaded, the UPDATE does what the
  request does to the row.
* `apply_eq_some` — the general one: what an UPDATE leaves in every column of any row, if it is not refused.

Which columns are sent decides everything that can go wrong between two requests, so the comparison with the
loaded value is modelled column by column.
-/

namespace ReviewSignal

/-- The SET clause of an UPDATE of the credential. -/
structure CredentialWrites where
  status : Option CredentialStatus := none
  accountId : Option (Option String) := none
  locationId : Option (Option String) := none
  accessTokenEncrypted : Option (Option Ciphertext) := none
  refreshTokenEncrypted : Option (Option Ciphertext) := none
  tokenExpiresAt : Option (Option Instant) := none
  scopes : Option (List String) := none
  connectedAt : Option (Option Instant) := none
  updatedAt : Option Instant := none
  deriving DecidableEq

namespace CredentialWrites

/-- The row an UPDATE leaves, unless `ck_source_credentials_connected_has_token` refuses it. -/
def apply (writes : CredentialWrites) (row : SourceCredential) : Option SourceCredential :=
  if h : writes.status.getD row.status = .connected →
      (writes.refreshTokenEncrypted.getD row.refreshTokenEncrypted).isSome then
    some {
      status := writes.status.getD row.status
      accountId := writes.accountId.getD row.accountId
      locationId := writes.locationId.getD row.locationId
      accessTokenEncrypted := writes.accessTokenEncrypted.getD row.accessTokenEncrypted
      refreshTokenEncrypted := writes.refreshTokenEncrypted.getD row.refreshTokenEncrypted
      tokenExpiresAt := writes.tokenExpiresAt.getD row.tokenExpiresAt
      scopes := writes.scopes.getD row.scopes
      connectedAt := writes.connectedAt.getD row.connectedAt
      updatedAt := writes.updatedAt.getD row.updatedAt
      connected_has_token := h }
  else none

end CredentialWrites

/-- What `complete` stores of the answer to an authorization code. -/
structure Grant where
  refreshToken : String
  accessToken : Option String
  tokenExpiresAt : Option Instant
  scopes : List String
  deriving DecidableEq

variable [Cipher]

/-- The row `upsert` leaves of a grant. -/
def Grant.row (grant : Grant) (now : Instant) : SourceCredential where
  status := .connected
  accountId := none
  locationId := none
  accessTokenEncrypted := grant.accessToken.map encrypt
  refreshTokenEncrypted := some (encrypt grant.refreshToken)
  tokenExpiresAt := grant.tokenExpiresAt
  scopes := grant.scopes
  connectedAt := some now
  updatedAt := now
  connected_has_token _ := rfl

namespace CredentialStatements

/-- A token column a fresh ciphertext, or `None`, was assigned to. -/
def differingToken (loaded new : Option Ciphertext) : Option (Option Ciphertext) :=
  match new with
  | some token => some (some token)
  | none => differing loaded none

/-- `upsert` of a grant, on a row. -/
def upsert (grant : Grant) (now : Instant) (loaded : SourceCredential) : CredentialWrites where
  status := differing loaded.status .connected
  accountId := differing loaded.accountId none
  locationId := differing loaded.locationId none
  accessTokenEncrypted := differingToken loaded.accessTokenEncrypted (grant.accessToken.map encrypt)
  refreshTokenEncrypted := some (some (encrypt grant.refreshToken))
  tokenExpiresAt := differing loaded.tokenExpiresAt grant.tokenExpiresAt
  scopes := differing loaded.scopes grant.scopes
  connectedAt := differing loaded.connectedAt (some now)
  updatedAt := differing loaded.updatedAt now

/-- `set_location` -/
def setLocation (accountId locationId : String) (now : Instant) (loaded : SourceCredential) :
    CredentialWrites where
  accountId := differing loaded.accountId (some accountId)
  locationId := differing loaded.locationId (some locationId)
  updatedAt := differing loaded.updatedAt now

/-- `mark_disconnected` -/
def markDisconnected (now : Instant) (loaded : SourceCredential) : CredentialWrites where
  status := differing loaded.status .disconnected
  accessTokenEncrypted := differingToken loaded.accessTokenEncrypted none
  refreshTokenEncrypted := differingToken loaded.refreshTokenEncrypted none
  updatedAt := differing loaded.updatedAt now

/-- `_refresh`, when the grant is refused. -/
def invalidate (loaded : SourceCredential) : CredentialWrites where
  status := differing loaded.status .invalid

/-- `_refresh`, when an access token is granted. -/
def renew (accessToken : String) (tokenExpiresAt now : Instant) (loaded : SourceCredential) :
    CredentialWrites where
  accessTokenEncrypted := some (some (encrypt accessToken))
  tokenExpiresAt := differing loaded.tokenExpiresAt (some tokenExpiresAt)
  updatedAt := differing loaded.updatedAt now

omit [Cipher] in
@[simp] theorem getD_differingToken (loaded new : Option Ciphertext) :
    (differingToken loaded new).getD loaded = new := by
  cases new <;> simp [differingToken]

end CredentialStatements

/-- What an UPDATE leaves in every column. -/
structure CredentialWrites.Leaves (writes : CredentialWrites) (row after : SourceCredential) : Prop where
  status : after.status = writes.status.getD row.status
  accountId : after.accountId = writes.accountId.getD row.accountId
  locationId : after.locationId = writes.locationId.getD row.locationId
  accessTokenEncrypted : after.accessTokenEncrypted
    = writes.accessTokenEncrypted.getD row.accessTokenEncrypted
  refreshTokenEncrypted : after.refreshTokenEncrypted
    = writes.refreshTokenEncrypted.getD row.refreshTokenEncrypted
  tokenExpiresAt : after.tokenExpiresAt = writes.tokenExpiresAt.getD row.tokenExpiresAt
  scopes : after.scopes = writes.scopes.getD row.scopes
  connectedAt : after.connectedAt = writes.connectedAt.getD row.connectedAt
  updatedAt : after.updatedAt = writes.updatedAt.getD row.updatedAt

namespace CredentialStatements

variable {writes : CredentialWrites} {loaded row after : SourceCredential} {now : Instant}

omit [Cipher] in
theorem apply_eq_some : writes.apply row = some after ↔ writes.Leaves row after := by
  rw [CredentialWrites.apply]
  constructor
  · intro h
    split_ifs at h
    cases h
    exact ⟨rfl, rfl, rfl, rfl, rfl, rfl, rfl, rfl, rfl⟩
  · intro h
    have htoken := after.connected_has_token
    rw [h.status, h.refreshTokenEncrypted] at htoken
    rw [dif_pos htoken, Option.some.injEq]
    cases after
    obtain ⟨rfl, rfl, rfl, rfl, rfl, rfl, rfl, rfl, rfl⟩ := h
    rfl

/-! ## Undisturbed, an UPDATE is the change of the row

One lemma for each request.  A column that is not sent has the loaded value already. -/

theorem apply_upsert (grant : Grant) (now : Instant) (loaded : SourceCredential) :
    (upsert grant now loaded).apply loaded = some (grant.row now) := by
  refine apply_eq_some.mpr ⟨?_, ?_, ?_, ?_, ?_, ?_, ?_, ?_, ?_⟩ <;> simp [upsert, Grant.row]

omit [Cipher] in
theorem apply_setLocation (accountId locationId : String) (now : Instant) (loaded : SourceCredential) :
    (setLocation accountId locationId now loaded).apply loaded = some { loaded with
      accountId := some accountId, locationId := some locationId, updatedAt := now } := by
  refine apply_eq_some.mpr ⟨?_, ?_, ?_, ?_, ?_, ?_, ?_, ?_, ?_⟩ <;> simp [setLocation]

omit [Cipher] in
theorem apply_markDisconnected (now : Instant) (loaded : SourceCredential) :
    (markDisconnected now loaded).apply loaded = some { loaded with
      status := .disconnected, accessTokenEncrypted := none, refreshTokenEncrypted := none,
      updatedAt := now, connected_has_token := nofun } := by
  refine apply_eq_some.mpr ⟨?_, ?_, ?_, ?_, ?_, ?_, ?_, ?_, ?_⟩ <;> simp [markDisconnected]

omit [Cipher] in
theorem apply_invalidate (loaded : SourceCredential) :
    (invalidate loaded).apply loaded
      = some { loaded with status := .invalid, connected_has_token := nofun } := by
  refine apply_eq_some.mpr ⟨?_, ?_, ?_, ?_, ?_, ?_, ?_, ?_, ?_⟩ <;> simp [invalidate]

theorem apply_renew (accessToken : String) (tokenExpiresAt now : Instant) (loaded : SourceCredential) :
    (renew accessToken tokenExpiresAt now loaded).apply loaded = some { loaded with
      accessTokenEncrypted := some (encrypt accessToken)
      tokenExpiresAt := some tokenExpiresAt
      updatedAt := now } := by
  refine apply_eq_some.mpr ⟨?_, ?_, ?_, ?_, ?_, ?_, ?_, ?_, ?_⟩ <;> simp [renew]

end CredentialStatements

end ReviewSignal
