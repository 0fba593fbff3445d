import ReviewSignal.Integrations.Base
import ReviewSignal.Repositories.Credentials

/-!
# Access-token resolution

`google_token.py`: a worker loads the connected credential of a source and gets a usable access token
from it, refreshing it first when it is close to expiry.

What Google's token endpoint does is a `TokenAnswer`.  A refresh commits its own changes to the
credential, so each function returns the table it leaves together with its result or exception.

`resolveAccessToken_ok` says what a resolution that returns has done: the token is the one the row it leaves
holds, encrypted, and the row tells when it expires.  That is all a job knows of its token, and
`TokenLifetime` starts from it.

A refusal (400 or 401) marks the credential as invalid before the exception, and every other failure leaves
it as it was: a token endpoint that is down says nothing about the grant.
-/

namespace ReviewSignal

/-- The fields the code reads of a token endpoint's JSON body. -/
structure TokenBody where
  accessToken : Option String := none
  refreshToken : Option String := none
  expiresIn : Option ℤ := none
  scope : String := ""
  deriving DecidableEq

/-- What a request to a token endpoint comes to.  `body` is what `response.json()` does. -/
inductive TokenAnswer where
  | unreachable (exc : Exn)
  | response (statusCode : ℕ) (text : String) (body : Except Exn TokenBody)

/-- `if not token` -/
def missing (token : Option String) : Bool := token = none ∨ token = some ""

/-- A number of seconds on the scale of `Instant`. -/
def seconds (n : ℤ) : ℤ := n * 1000000

namespace GoogleToken

variable [Cipher]

/-- `EXPIRY_SKEW` -/
def expirySkew : ℤ := seconds (5 * 60)

/-- `load_credential` -/
def loadCredential (source : String) (table : CredentialTable) : Except Exn SourceCredential :=
  match table.lookup source with
  | none => .error (sourceNotConnectedError ("No connected credential for source '" ++ source ++ "'."))
  | some credential =>
      if credential.status ≠ .connected then
        .error (sourceNotConnectedError ("No connected credential for source '" ++ source ++ "'."))
      else if credential.refreshTokenEncrypted = none then
        .error (sourceNotConnectedError ("Credential for '" ++ source ++ "' has no refresh token."))
      else .ok credential

/-- `_still_valid` -/
def stillValid (now : Instant) (credential : SourceCredential) : Bool :=
  credential.tokenExpiresAt.any fun expiresAt => now < expiresAt - expirySkew

/-- `_refresh` -/
def refresh (source : String) (now : Instant) (answer : TokenAnswer) (credential : SourceCredential)
    (table : CredentialTable) : Except Exn String × CredentialTable :=
  match answer with
  | .unreachable exc =>
      (.error (sourceFetchError ("Could not reach Google's token endpoint: " ++ exc.message)), table)
  | .response statusCode _ body =>
      if statusCode = 400 ∨ statusCode = 401 then
        -- a revoked or withdrawn grant is permanent
        (.error (sourceNotConnectedError
            "Google rejected the refresh token; the connection must be re-authorized."),
          table.insert source { credential with status := .invalid, connected_has_token := nofun })
      else if 300 ≤ statusCode then
        (.error (sourceFetchError
            ("Google token endpoint returned HTTP " ++ toString statusCode ++ ".")), table)
      else
        match body with
        | .error exc => (.error exc, table)
        | .ok body =>
            if missing body.accessToken then
              (.error (sourceFetchError "Google's token response contained no access_token."), table)
            else
              let accessToken := body.accessToken.getD ""
              (.ok accessToken, table.insert source { credential with
                accessTokenEncrypted := some (encrypt accessToken)
                tokenExpiresAt := some (now + seconds (body.expiresIn.getD 3600))
                updatedAt := now })

/-- `resolve_access_token` -/
def resolveAccessToken (source : String) (now : Instant) (answer : TokenAnswer)
    (credential : SourceCredential) (table : CredentialTable) :
    Except Exn String × CredentialTable :=
  match credential.accessTokenEncrypted with
  | some token =>
      if stillValid now credential then (.ok (decrypt token), table)
      else refresh source now answer credential table
  | none => refresh source now answer credential table

/-- What `_refresh` makes of an answer: the grant is refused, an access token is granted for some
seconds, or neither. -/
inductive RefreshOutcome where
  | refused
  | granted (accessToken : String) (expiresIn : ℤ)
  | failed (exc : Exn)
  deriving DecidableEq

def outcome (answer : TokenAnswer) : RefreshOutcome :=
  match answer with
  | .unreachable exc =>
      .failed (sourceFetchError ("Could not reach Google's token endpoint: " ++ exc.message))
  | .response statusCode _ body =>
      if statusCode = 400 ∨ statusCode = 401 then .refused
      else if 300 ≤ statusCode then
        .failed (sourceFetchError
          ("Google token endpoint returned HTTP " ++ toString statusCode ++ "."))
      else
        match body with
        | .error exc => .failed exc
        | .ok body =>
            if missing body.accessToken then
              .failed (sourceFetchError "Google's token response contained no access_token.")
            else .granted (body.accessToken.getD "") (body.expiresIn.getD 3600)

/-- `resolve_access_token` needs no refresh. -/
def usable (now : Instant) (credential : SourceCredential) : Bool :=
  credential.accessTokenEncrypted.isSome ∧ stillValid now credential

/-- When the token that is resolved expires. -/
def expiry (now : Instant) (answer : TokenAnswer) (credential : SourceCredential) : Instant :=
  match usable now credential, credential.tokenExpiresAt, outcome answer with
  | true, some expiresAt, _ => expiresAt
  | _, _, .granted _ expiresIn => now + seconds expiresIn
  | _, _, _ => now

/-! ## What they do

When the stored token is used, what a refresh comes to, and the row after it. -/

variable {source : String} {table : CredentialTable} {credential : SourceCredential} {now : Instant}
  {answer : TokenAnswer}

omit [Cipher] in
theorem loadCredential_eq_ok : loadCredential source table = .ok credential ↔
    table.lookup source = some credential ∧ credential.status = .connected := by
  rw [loadCredential]
  cases table.lookup source with
  | none => simp
  | some stored =>
      have htoken := stored.connected_has_token
      by_cases hstatus : stored.status = .connected
      · have hsome : stored.refreshTokenEncrypted ≠ none := by
          simpa [Option.isSome_iff_ne_none] using htoken hstatus
        simp only [hstatus, ne_eq, not_true_eq_false, if_false, hsome, Except.ok.injEq,
          Option.some.injEq]
        constructor
        · rintro rfl
          exact ⟨rfl, hstatus⟩
        · exact And.left
      · simp only [ne_eq, hstatus, not_false_eq_true, if_true, Option.some.injEq, reduceCtorEq,
          false_iff, not_and]
        rintro rfl
        exact hstatus

theorem refresh_eq (source : String) (now : Instant) (answer : TokenAnswer)
    (credential : SourceCredential) (table : CredentialTable) :
    refresh source now answer credential table = match outcome answer with
      | .failed exc => (.error exc, table)
      | .refused => (.error (sourceNotConnectedError
            "Google rejected the refresh token; the connection must be re-authorized."),
          table.insert source { credential with status := .invalid, connected_has_token := nofun })
      | .granted accessToken expiresIn => (.ok accessToken, table.insert source { credential with
          accessTokenEncrypted := some (encrypt accessToken)
          tokenExpiresAt := some (now + seconds expiresIn)
          updatedAt := now }) := by
  rcases answer with exc | ⟨statusCode, text, body⟩
  · rfl
  · by_cases hrefused : statusCode = 400 ∨ statusCode = 401
    · simp [refresh, outcome, hrefused]
    · by_cases hfailed : 300 ≤ statusCode
      · simp [refresh, outcome, hrefused, hfailed]
      · rcases body with exc | body
        · simp [refresh, outcome, hrefused, hfailed]
        · by_cases hmissing : missing body.accessToken <;>
            simp [refresh, outcome, hrefused, hfailed, hmissing]

omit [Cipher] in
theorem usable_eq_true : usable now credential = true ↔
    ∃ token expiresAt, credential.accessTokenEncrypted = some token ∧
      credential.tokenExpiresAt = some expiresAt ∧ now < expiresAt - expirySkew := by
  cases htoken : credential.accessTokenEncrypted <;>
    cases hexpires : credential.tokenExpiresAt <;> simp [usable, stillValid, htoken, hexpires]

omit [Cipher] in
theorem usable_eq_false : usable now credential = false ↔
    credential.accessTokenEncrypted = none ∨ stillValid now credential = false := by
  cases htoken : credential.accessTokenEncrypted <;> simp [usable, htoken]

theorem resolveAccessToken_of_expired (source : String) (answer : TokenAnswer)
    (table : CredentialTable) (h : usable now credential = false) :
    resolveAccessToken source now answer credential table
      = refresh source now answer credential table := by
  rw [resolveAccessToken]
  cases htoken : credential.accessTokenEncrypted with
  | none => rfl
  | some token =>
      have hinvalid : stillValid now credential = false := by simpa [usable, htoken] using h
      simp [hinvalid]

/-- **The token and its expiry are those of the row the resolution leaves.** -/
theorem resolveAccessToken_ok {accessToken : String} {after : CredentialTable}
    (hrow : table.lookup source = some credential)
    (h : resolveAccessToken source now answer credential table = (.ok accessToken, after)) :
    ∃ row ciphertext, after.lookup source = some row ∧
      row.accessTokenEncrypted = some ciphertext ∧ decrypt ciphertext = accessToken ∧
      row.tokenExpiresAt = some (expiry now answer credential) := by
  cases husable : usable now credential with
  | true =>
      obtain ⟨token, expiresAt, htoken, hexpires, hlater⟩ := usable_eq_true.mp husable
      have hvalid : stillValid now credential = true := by simpa [stillValid, hexpires] using hlater
      rw [resolveAccessToken, htoken] at h
      simp only [hvalid, if_true, Prod.mk.injEq, Except.ok.injEq] at h
      obtain ⟨rfl, rfl⟩ := h
      exact ⟨credential, token, hrow, htoken, rfl, by simp [expiry, husable, hexpires]⟩
  | false =>
      rw [resolveAccessToken_of_expired source answer table husable, refresh_eq] at h
      cases houtcome : outcome answer with
      | failed exc => simp [houtcome] at h
      | refused => simp [houtcome] at h
      | granted token expiresIn =>
          simp only [houtcome, Prod.mk.injEq, Except.ok.injEq] at h
          obtain ⟨rfl, rfl⟩ := h
          exact ⟨_, _, Finmap.lookup_insert _, rfl, decrypt_encrypt _, by simp [expiry, husable, houtcome]⟩

end GoogleToken

end ReviewSignal
