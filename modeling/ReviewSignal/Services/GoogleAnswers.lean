import ReviewSignal.Integrations.GoogleProfile
import ReviewSignal.Repositories.CredentialStatements

/-!
# The Google connection over undecoded answers

`google_token.py` and `google_connection.py` again, this time over what Google's endpoints really send:
any status with any body.  `GoogleToken` and `GoogleConnectionService` start from a body that is already
of the documented type; `refresh_encoded` and `complete_encoded` say that on such a body the two agree.

The code trusts its answers.  A field of the wrong type is used as it is: a number is encrypted, a text
added to a date, a list looked up by key.  Every such place raises, here as there, and what it raises is what
`DocumentedErrors` asks about.  `DecodedBody` has the operations that do.

The encryption key is configured.  A text of a body may hold a lone surrogate, which a `String` cannot;
`encodes` tells which texts do not.  That a body of the documented type has scopes that JSONB takes is a
hypothesis of `complete_encoded`, for the sequential module does not ask it.
-/

namespace ReviewSignal

open GoogleReviewSourceAdapter (truthy)

/-- What a request depends on outside the repository: the profile endpoints, the answer of the token
endpoint, what `decrypt` raises on a token that was encrypted under another key, the texts that
`encode` accepts, and what is white space and a digit. -/
structure GoogleEnv extends ProfileApi where
  tokenAnswer : HttpAnswer
  undecryptable : Ciphertext → Option Exn
  encodes : String → Bool
  unicode : Python.Unicode
  tokenAnswer_foreign : tokenAnswer.Foreign
  undecryptable_foreign : ∀ ciphertext exc, undecryptable ciphertext = some exc → ¬ exc.Known

namespace GoogleAnswers

open GoogleConnectionService (source ensureConnected)

variable [Cipher]

/-- `encrypt(value)`: the text that is encrypted. -/
def encodedText (env : GoogleEnv) (value : Json) : Except Exn String := do
  let text ← value.method "encode"
  if env.encodes text then pure text
  else .error ⟨"UnicodeEncodeError", "surrogates not allowed"⟩

/-- `decrypt` -/
def decrypted (env : GoogleEnv) (ciphertext : Ciphertext) : Except Exn String :=
  match env.undecryptable ciphertext with
  | some exc => .error exc
  | none => .ok (decrypt ciphertext)

/-! ## `google_token.py`

The functions in their order, each with the type it needs of what it is given. -/

/-- What `_refresh` takes of a body: the access token and its expiry. -/
def renewal (env : GoogleEnv) (now : Instant) (body : Json) : Except Exn (String × Instant) := do
  let accessToken ← body.field "access_token" .null
  if truthy accessToken then
    let accessToken ← encodedText env accessToken
    let expiresIn ← (← body.field "expires_in" (.num 3600)).toInt env.unicode
    let tokenExpiresAt ← Python.addDuration now (seconds expiresIn)
    pure (accessToken, tokenExpiresAt)
  else .error (sourceFetchError "Google's token response contained no access_token.")

omit [Cipher] in
theorem invalid_has_token (credential : SourceCredential) :
    CredentialStatus.invalid = .connected → credential.refreshTokenEncrypted.isSome := by simp

/-- `_refresh` -/
def refresh (env : GoogleEnv) (source : String) (now : Instant) (credential : SourceCredential)
    (table : CredentialTable) : Except Exn String × CredentialTable :=
  match credential.refreshTokenEncrypted with
  | none => (.error ⟨"AssertionError", ""⟩, table)
  | some refreshToken =>
      match decrypted env refreshToken, env.tokenAnswer with
      | .error exc, _ => (.error exc, table)
      | .ok _, .unreachable exc =>
          (.error (sourceFetchError ("Could not reach Google's token endpoint: " ++ exc.message)), table)
      | .ok _, .response statusCode _ body =>
          if statusCode = 400 ∨ statusCode = 401 then
            (.error (sourceNotConnectedError
                "Google rejected the refresh token; the connection must be re-authorized."),
              table.insert source { credential with
                status := .invalid, connected_has_token := invalid_has_token credential })
          else if 300 ≤ statusCode then
            (.error (sourceFetchError
                ("Google token endpoint returned HTTP " ++ toString statusCode ++ ".")), table)
          else
            -- what was assigned before an exception is rolled back
            match body >>= renewal env now with
            | .error exc => (.error exc, table)
            | .ok (accessToken, tokenExpiresAt) =>
                (.ok accessToken, table.insert source { credential with
                  accessTokenEncrypted := some (encrypt accessToken)
                  tokenExpiresAt := some tokenExpiresAt
                  updatedAt := now })

/-- `_still_valid` -/
def stillValid (now : Instant) (credential : SourceCredential) : Except Exn Bool :=
  match credential.tokenExpiresAt with
  | none => .ok false
  | some expiresAt => do
      let refreshAt ← Python.addDuration expiresAt (-GoogleToken.expirySkew)
      pure (now < refreshAt)

/-- `resolve_access_token` -/
def resolveAccessToken (env : GoogleEnv) (source : String) (now : Instant)
    (credential : SourceCredential) (table : CredentialTable) : Except Exn String × CredentialTable :=
  match credential.accessTokenEncrypted with
  | none => refresh env source now credential table
  | some token =>
      match stillValid now credential with
      | .error exc => (.error exc, table)
      | .ok true => (decrypted env token, table)
      | .ok false => refresh env source now credential table

/-! ## `google_connection.py`

The discoveries, and the callback as far as the flush. -/

/-- `_access_token` -/
def accessToken (env : GoogleEnv) (now : Instant) (table : CredentialTable) :
    Except Exn String × CredentialTable :=
  match GoogleToken.loadCredential source table with
  | .error exc => (.error exc, table)
  | .ok credential => resolveAccessToken env source now credential table

/-- The exception `_discover` raises for one of a discovery. -/
def translated (exc : Exn) : Exn :=
  if exc.typeName = "SourceNotConnectedError" then googleNotConnectedError exc.message
  else if exc.typeName = "SourceFetchError" then googleApiError exc.message
  else exc

/-- `_discover`, of `_fetch_accounts` or `_fetch_locations`. -/
def discover (env : GoogleEnv) (now : Instant) (listing : Listing) (table : CredentialTable) :
    Except Exn (List Discovered) × CredentialTable :=
  let (token, table) := accessToken env now table
  ((token >>= (listing.discoverAll env.toProfileApi ·)).mapError translated, table)

/-- `GoogleAccountPayload` and `GoogleLocationPayload`: both fields are texts. -/
def payload (env : GoogleEnv) (found : Discovered) : Except Exn (String × String) :=
  if env.encodes found.resourceId ∧ found.label.isStr ∧ env.encodes found.label.text then
    .ok (found.resourceId, found.label.text)
  else .error ⟨"ValidationError", "Input should be a valid string"⟩

/-- The common text of `list_accounts` and `list_locations`. -/
def list (env : GoogleEnv) (now : Instant) (listing : Listing) (table : CredentialTable) :
    Except Exn (List (String × String)) × CredentialTable :=
  match ensureConnected table with
  | .error exc => (.error exc, table)
  | .ok () =>
      let (found, table) := discover env now listing table
      (found >>= (·.mapM (payload env)), table)

/-- `list_accounts` -/
def listAccounts (env : GoogleEnv) (now : Instant) (table : CredentialTable) :
    Except Exn (List (String × String)) × CredentialTable :=
  list env now GoogleProfile.accounts table

/-- `list_locations` -/
def listLocations (env : GoogleEnv) (now : Instant) (accountId : String) (table : CredentialTable) :
    Except Exn (List (String × String)) × CredentialTable :=
  list env now (GoogleProfile.locations accountId) table

/-- `scope_string.split() if scope_string else []` -/
def scopes (env : GoogleEnv) (scopeString : Json) : Except Exn (List String) :=
  if truthy scopeString then Python.split env.unicode <$> scopeString.method "split" else .ok []

/-- A text PostgreSQL takes in a JSONB column. -/
def jsonbText (env : GoogleEnv) (text : String) : Bool := env.encodes text ∧ '\x00' ∉ text.toList

/-- `datetime.now(UTC) + timedelta(seconds=expires_in) if expires_in is not None else None` -/
def expiry (now : Instant) (expiresIn : Json) : Except Exn (Option Instant) :=
  if expiresIn = .null then .ok none
  else some <$> (expiresIn.toDuration >>= Python.addDuration now)

/-- `encrypt(access_token) if access_token else None` -/
def optionalText (env : GoogleEnv) (value : Json) : Except Exn (Option String) :=
  if truthy value then some <$> encodedText env value else .ok none

/-- What `complete` takes of a payload, as far as the flush of `upsert`. -/
def grant (env : GoogleEnv) (now : Instant) (payload : Json) : Except Exn Grant := do
  let refreshToken ← payload.field "refresh_token" .null
  if truthy refreshToken then
    let accessToken ← payload.field "access_token" .null
    let expiresIn ← payload.field "expires_in" .null
    let tokenExpiresAt ← expiry now expiresIn
    let scopes ← payload.field "scope" (.str "") >>= scopes env
    let refreshToken ← encodedText env refreshToken
    let accessToken ← optionalText env accessToken
    if scopes.all (jsonbText env) then pure { refreshToken, accessToken, tokenExpiresAt, scopes }
    else .error ⟨"DataError", "unsupported Unicode escape sequence"⟩
  else
    .error (googleApiError ("Google did not grant offline access (no refresh_token in " ++
      "the response); reconnect and approve offline access."))

/-- `complete` -/
def complete (env : GoogleEnv) (now : Instant) (table : CredentialTable) :
    Except Exn Unit × CredentialTable :=
  match env.tokenAnswer with
  | .unreachable exc =>
      (.error (googleApiError ("Could not reach Google's OAuth token endpoint: " ++ exc.message)),
        table)
  | .response statusCode text body =>
      if ¬ (200 ≤ statusCode ∧ statusCode < 300) then
        (.error (googleApiError
          ("Google token exchange failed (" ++ toString statusCode ++ "): " ++ text)), table)
      else
        match body >>= grant env now with
        | .error exc => (.error exc, table)
        | .ok grant =>
            (.ok (), CredentialRepository.upsert source now (encrypt grant.refreshToken)
              (grant.accessToken.map encrypt) grant.tokenExpiresAt none none grant.scopes table)

/-! ## On bodies of the documented type

The two models of a function agree where both apply. -/

end GoogleAnswers

/-- A body of the documented type, as JSON. -/
def TokenBody.encoded (body : TokenBody) : Json :=
  .obj (body.accessToken.toList.map (("access_token", .str ·)) ++
    body.refreshToken.toList.map (("refresh_token", .str ·)) ++
    body.expiresIn.toList.map (fun seconds : ℤ => ("expires_in", .num seconds)) ++
    [("scope", .str body.scope)])

/-- The answer with its body as JSON. -/
def TokenAnswer.encoded : TokenAnswer → HttpAnswer
  | .unreachable exc => .unreachable exc
  | .response statusCode text body => .response statusCode text (body.map TokenBody.encoded)

namespace GoogleAnswers

section Encoded

variable [Cipher] {env : GoogleEnv} {now : Instant} {answer : TokenAnswer} {body : TokenBody}

omit [Cipher] in
@[simp] theorem isObj_encoded (body : TokenBody) : body.encoded.isObj = true := rfl

omit [Cipher] in
@[simp] theorem getD_encoded (body : TokenBody) :
    body.encoded.getD "access_token" .null = Json.ofOption body.accessToken ∧
    body.encoded.getD "refresh_token" .null = Json.ofOption body.refreshToken ∧
    (∀ absent, body.encoded.getD "expires_in" absent
      = (body.expiresIn.map fun seconds : ℤ => Json.num seconds).getD absent) ∧
    body.encoded.getD "scope" (.str "") = .str body.scope := by
  rcases body with ⟨_ | accessToken, _ | refreshToken, _ | expiresIn, scope⟩ <;>
    simp [TokenBody.encoded, Json.getD, Json.get?, List.lookup_cons, Json.ofOption]

omit [Cipher] in
theorem truthy_ofOption (token : Option String) : truthy (Json.ofOption token) = !missing token := by
  cases token <;> simp [Json.ofOption, truthy, missing]

omit [Cipher] in
theorem encodedText_ofOption (hencodes : ∀ text, env.encodes text = true) {token : Option String}
    (h : missing token = false) : encodedText env (Json.ofOption token) = .ok (token.getD "") := by
  cases token with
  | none => simp [missing] at h
  | some text => simp [encodedText, Json.ofOption, Json.method, Json.isStr, Json.text, bind, Except.bind,
      hencodes, pure, Except.pure]

omit [Cipher] in
theorem toInt_expiresIn (unicode : Python.Unicode) (expiresIn : Option ℤ) :
    ((expiresIn.map fun seconds : ℤ => Json.num seconds).getD (.num 3600)).toInt unicode
      = .ok (expiresIn.getD 3600) := by
  cases expiresIn <;> simp [Json.toInt, Json.int, Python.truncate]

omit [Cipher] in
theorem renewal_encoded (hencodes : ∀ text, env.encodes text = true)
    (hfits : Python.Fits now (seconds (body.expiresIn.getD 3600))) :
    renewal env now body.encoded
      = if missing body.accessToken then
          .error (sourceFetchError "Google's token response contained no access_token.")
        else .ok (body.accessToken.getD "", now + seconds (body.expiresIn.getD 3600)) := by
  simp only [renewal, Json.field, isObj_encoded, if_true, getD_encoded, truthy_ofOption, bind, Except.bind]
  cases hmissing : missing body.accessToken with
  | true => rfl
  | false =>
      simp [encodedText_ofOption hencodes hmissing, toInt_expiresIn, Python.addDuration_of_fits hfits,
        pure, Except.pure]

/-- **On a body of the documented type `_refresh` does what `GoogleToken.refresh` says.** -/
theorem refresh_encoded {source : String} {credential : SourceCredential} {table : CredentialTable}
    (hanswer : env.tokenAnswer = answer.encoded) (hencodes : ∀ text, env.encodes text = true)
    (hdecrypts : ∀ ciphertext, env.undecryptable ciphertext = none)
    (hfits : ∀ statusCode text body, answer = .response statusCode text (.ok body) →
      Python.Fits now (seconds (body.expiresIn.getD 3600)))
    (htoken : credential.refreshTokenEncrypted.isSome) :
    refresh env source now credential table
      = GoogleToken.refresh source now answer credential table := by
  rcases credential with ⟨_, _, _, _, _ | refreshToken, _, _, _, _, _⟩
  · simp at htoken
  · rcases answer with exc | ⟨statusCode, text, exc | body⟩
    · simp [refresh, GoogleToken.refresh, hanswer, TokenAnswer.encoded, decrypted, hdecrypts]
    · simp [refresh, GoogleToken.refresh, hanswer, TokenAnswer.encoded, decrypted, hdecrypts, Except.map,
        bind, Except.bind]
    · simp only [refresh, GoogleToken.refresh, hanswer, TokenAnswer.encoded, decrypted, hdecrypts,
        Except.map, bind, Except.bind, renewal_encoded hencodes (hfits _ _ _ rfl)]
      by_cases hmissing : missing body.accessToken <;> simp [hmissing]

omit [Cipher] in
theorem expiry_encoded {expiresIn : Option ℤ}
    (hfits : ∀ n, expiresIn = some n → Python.Fits now (seconds n)) :
    expiry now ((expiresIn.map fun seconds : ℤ => Json.num seconds).getD .null)
      = .ok (expiresIn.map fun n => now + seconds n) := by
  cases expiresIn with
  | none => rfl
  | some n =>
      have hround : Python.round (n * 1000000) = seconds n := by
        exact_mod_cast Python.round_intCast (seconds n)
      simp [expiry, Json.toDuration, Json.duration, hround, bind, Except.bind,
        Python.addDuration_of_fits (hfits n rfl)]

omit [Cipher] in
theorem scopes_encoded : scopes env (.str body.scope) = .ok (Python.split env.unicode body.scope) := by
  rw [scopes]
  split_ifs with htruthy
  · simp [Json.method, Json.isStr, Json.text]
  · have hempty : body.scope = "" := by simpa [truthy] using htruthy
    simp [hempty, Python.split]

omit [Cipher] in
theorem optionalText_encoded (hencodes : ∀ text, env.encodes text = true) (token : Option String) :
    optionalText env (Json.ofOption token)
      = .ok (if missing token then none else some (token.getD "")) := by
  rw [optionalText, truthy_ofOption]
  cases hmissing : missing token with
  | true => rfl
  | false => simp [encodedText_ofOption hencodes hmissing]

omit [Cipher] in
theorem grant_encoded (hencodes : ∀ text, env.encodes text = true)
    (hfits : ∀ expiresIn, body.expiresIn = some expiresIn → Python.Fits now (seconds expiresIn))
    (hscopes : (Python.split env.unicode body.scope).all (jsonbText env)) :
    grant env now body.encoded
      = if missing body.refreshToken then
          .error (googleApiError ("Google did not grant offline access (no refresh_token in " ++
            "the response); reconnect and approve offline access."))
        else .ok {
          refreshToken := body.refreshToken.getD ""
          accessToken := if missing body.accessToken then none else some (body.accessToken.getD "")
          tokenExpiresAt := body.expiresIn.map fun expiresIn => now + seconds expiresIn
          scopes := Python.split env.unicode body.scope } := by
  simp only [grant, Json.field, isObj_encoded, if_true, bind, Except.bind, expiry_encoded hfits,
    getD_encoded, truthy_ofOption, scopes_encoded, optionalText_encoded hencodes, hscopes]
  cases hmissing : missing body.refreshToken with
  | true => rfl
  | false => simp [encodedText_ofOption hencodes hmissing, pure, Except.pure]

/-- **On a body of the documented type `complete` does what `GoogleConnectionService.complete` says.**
The scopes must be texts that JSONB takes, split at the white space of ASCII. -/
theorem complete_encoded {table : CredentialTable}
    (hanswer : env.tokenAnswer = answer.encoded) (hencodes : ∀ text, env.encodes text = true)
    (hbody : ∀ statusCode text body, answer = .response statusCode text (.ok body) →
      (∀ expiresIn, body.expiresIn = some expiresIn → Python.Fits now (seconds expiresIn)) ∧
      Python.split env.unicode body.scope = splitScopes body.scope ∧
      (splitScopes body.scope).all (jsonbText env)) :
    complete env now table = GoogleConnectionService.complete now answer table := by
  rcases answer with exc | ⟨statusCode, text, exc | body⟩
  · simp only [complete, hanswer, TokenAnswer.encoded]
    rfl
  · simp only [complete, hanswer, TokenAnswer.encoded]
    rfl
  · obtain ⟨hfits, hsplit, hscopes⟩ := hbody _ _ _ rfl
    simp only [complete, GoogleConnectionService.complete, hanswer, TokenAnswer.encoded, Except.map, bind,
      Except.bind, grant_encoded hencodes hfits (hsplit ▸ hscopes), hsplit]
    refine if_congr Iff.rfl rfl ?_
    cases missing body.refreshToken <;> cases missing body.accessToken <;> rfl

end Encoded

end GoogleAnswers

end ReviewSignal
