import ReviewSignal.Services.GoogleToken

/-!
# The Google connection lifecycle

`GoogleConnectionService`: connecting is two steps.  `complete` stores a grant and forgets the
selected profile, `selectLocation` records the account and the location to ingest from.

Each request returns its exception, if any, and the table it leaves committed.  The answer of the token
endpoint is a parameter of `complete`, of the documented type; any other body is the subject of
`GoogleAnswers`.

Here a request runs by itself.  `ConnectionRequests` lets any number of them take turns, and shows that
undisturbed its steps are these functions.
-/

namespace ReviewSignal

/-- `GoogleApiError` -/
def googleApiError (message : String) : Exn := ⟨"GoogleApiError", message⟩

/-- `GoogleNotConnectedError` -/
def googleNotConnectedError (message : String) : Exn := ⟨"GoogleNotConnectedError", message⟩

/-- `scope_string.split()`, of a string with ASCII whitespace only. -/
def splitScopes (scope : String) : List String :=
  ((scope.toList.splitOnP Char.isWhitespace).filter (· ≠ [])).map String.ofList

namespace GoogleConnectionService

variable [Cipher]

/-- `SOURCE` -/
def source : String := "google"

/-- `complete`, given the answer of the token endpoint to the authorization code. -/
def complete (now : Instant) (answer : TokenAnswer) (table : CredentialTable) :
    Except Exn Unit × CredentialTable :=
  match answer with
  | .unreachable exc =>
      (.error (googleApiError ("Could not reach Google's OAuth token endpoint: " ++ exc.message)),
        table)
  | .response statusCode text body =>
      if ¬ (200 ≤ statusCode ∧ statusCode < 300) then
        (.error (googleApiError
          ("Google token exchange failed (" ++ toString statusCode ++ "): " ++ text)), table)
      else
        match body with
        | .error exc => (.error exc, table)
        | .ok payload =>
            if missing payload.refreshToken then
              (.error (googleApiError ("Google did not grant offline access (no refresh_token in " ++
                "the response); reconnect and approve offline access.")), table)
            else
              (.ok (), CredentialRepository.upsert source now
                (encrypt (payload.refreshToken.getD ""))
                (if missing payload.accessToken then none
                  else some (encrypt (payload.accessToken.getD "")))
                (payload.expiresIn.map fun expiresIn => now + seconds expiresIn)
                none none (splitScopes payload.scope) table)

/-- `ensure_connected` -/
def ensureConnected (table : CredentialTable) : Except Exn Unit :=
  match CredentialRepository.get source table with
  | none => .error (googleNotConnectedError "Google is not connected; connect it before syncing.")
  | some credential =>
      if credential.status ≠ .connected then
        .error (googleNotConnectedError "Google is not connected; connect it before syncing.")
      else .ok ()

/-- `select_location` -/
def selectLocation (now : Instant) (accountId locationId : String) (table : CredentialTable) :
    Except Exn Unit × CredentialTable :=
  match ensureConnected table with
  | .error exc => (.error exc, table)
  | .ok () => (.ok (), CredentialRepository.setLocation source now accountId locationId table)

/-- `disconnect` -/
def disconnect (now : Instant) (table : CredentialTable) : CredentialTable :=
  CredentialRepository.markDisconnected source now table

end GoogleConnectionService

end ReviewSignal
