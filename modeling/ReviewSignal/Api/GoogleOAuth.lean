import ReviewSignal.Core.Auth
import ReviewSignal.Foundations.FormUrlEncoded
import ReviewSignal.Services.GoogleConnection

/-!
# The routes of the Google connection

`GET /google/connect` sends the browser to the consent screen with a state, which it also sets as a cookie;
`GET /google/callback` is where Google sends it back, with a code and the state.

* **`parse_authorizationUrl`** — the consent screen finds in its address the parameters it was given, the
  state among them (`stateOf_authorizationUrl`).  The settings are texts of any characters; `urlencode` and
  the parsing of a query are inverse to each other.
* `cookie_of_googleCallback` — a connection is made only where the cookie is the state.
* `table_of_googleCallback` — a callback that fails leaves the credentials as they were.

What keeps a state to one browser is how browsers treat cookies, and not a matter of one route: see
`StateBinding`.
-/

namespace ReviewSignal

/-- The settings of the OAuth client. -/
structure OAuthSettings where
  googleClientId : String
  googleRedirectUri : String
  deriving DecidableEq

namespace GoogleOAuth

/-- `AUTHORIZATION_URL` -/
def authorizationEndpoint : String := "https://accounts.google.com/o/oauth2/v2/auth"

/-- `SCOPE` -/
def scope : String := "https://www.googleapis.com/auth/business.manage"

/-- `_STATE_TTL_SECONDS`, in microseconds. -/
def stateTtl : ℤ := 600 * 1000000

/-- The parameters of the consent screen. -/
def authorizationParams (settings : OAuthSettings) (state : String) : List (String × String) :=
  [("client_id", settings.googleClientId), ("redirect_uri", settings.googleRedirectUri),
    ("response_type", "code"), ("scope", scope), ("access_type", "offline"), ("prompt", "consent"),
    ("state", state)]

/-- `authorization_url` -/
def authorizationUrl (settings : OAuthSettings) (state : String) : Except Exn String :=
  if settings.googleClientId = "" ∨ settings.googleRedirectUri = "" then
    .error (googleNotConnectedError ("GOOGLE_CLIENT_ID and GOOGLE_REDIRECT_URI are not configured; set the "
      ++ "Google OAuth environment variables before connecting."))
  else .ok (authorizationEndpoint ++ "?"
    ++ FormUrlEncoded.serialize FormUrlEncoded.quotePlus (authorizationParams settings state))

/-- The state an address carries. -/
def stateOf (url : String) : Option String :=
  FormUrlEncoded.lastValue (FormUrlEncoded.parse (FormUrlEncoded.query url)) "state"

/-- The answer to a callback that does not match. -/
def stateMismatch : Exn :=
  ⟨"ValidationFailedError", "OAuth state did not match the browser that started the connection."⟩

variable [Cipher]

/-- `google_callback`, given the answer of the token endpoint to the code: the connection, if it is made. -/
def googleCallback (now : Instant) (answer : TokenAnswer) (state : String) (cookie : Option String)
    (table : CredentialTable) : Except Exn Unit × CredentialTable :=
  match cookie with
  | none => (.error stateMismatch, table)
  | some cookie =>
      match Auth.compareDigest cookie state with
      | .error exc => (.error exc, table)
      | .ok false => (.error stateMismatch, table)
      | .ok true => GoogleConnectionService.complete now answer table

omit [Cipher] in
/-- **The consent screen finds the parameters it was given**, and nothing else. -/
theorem parse_authorizationUrl (settings : OAuthSettings) (state url : String)
    (h : authorizationUrl settings state = .ok url) :
    FormUrlEncoded.parse (FormUrlEncoded.query url) = authorizationParams settings state := by
  rw [authorizationUrl] at h
  split_ifs at h
  cases h
  rw [FormUrlEncoded.query_append (forall_mem_of_all (by decide)), FormUrlEncoded.parse_serialize]

omit [Cipher] in
theorem stateOf_authorizationUrl {settings : OAuthSettings} {state url : String}
    (h : authorizationUrl settings state = .ok url) : stateOf url = some state := by
  rw [stateOf, parse_authorizationUrl settings state url h]
  rfl

/-- A connection is made only where the cookie is the state. -/
theorem cookie_of_googleCallback {now : Instant} {answer : TokenAnswer} {state : String}
    {cookie : Option String} {table table' : CredentialTable}
    (h : googleCallback now answer state cookie table = (.ok (), table')) : cookie = some state := by
  cases cookie with
  | none => cases h
  | some cookie =>
      rw [googleCallback] at h
      cases hcompare : Auth.compareDigest cookie state with
      | error exc =>
          rw [hcompare] at h
          cases h
      | ok same =>
          rw [hcompare] at h
          cases same with
          | false => cases h
          | true =>
              rw [Auth.compareDigest] at hcompare
              split_ifs at hcompare
              simpa using hcompare

theorem table_of_complete {now : Instant} {answer : TokenAnswer} {table table' : CredentialTable} {exc : Exn}
    (h : GoogleConnectionService.complete now answer table = (.error exc, table')) : table' = table := by
  unfold GoogleConnectionService.complete at h
  split at h
  · cases h
    rfl
  · split_ifs at h
    · split at h
      · cases h
        rfl
      · split_ifs at h
        · cases h
          rfl
        · cases h
        · cases h
    · cases h
      rfl

/-- A callback that fails leaves the credentials as they were. -/
theorem table_of_googleCallback {now : Instant} {answer : TokenAnswer} {state : String}
    {cookie : Option String} {table table' : CredentialTable} {exc : Exn}
    (h : googleCallback now answer state cookie table = (.error exc, table')) : table' = table := by
  cases cookie with
  | none =>
      cases h
      rfl
  | some cookie =>
      rw [googleCallback] at h
      rcases hcompare : Auth.compareDigest cookie state with exc' | (_ | _) <;> rw [hcompare] at h
      · cases h
        rfl
      · cases h
        rfl
      · exact table_of_complete h

end GoogleOAuth

end ReviewSignal
