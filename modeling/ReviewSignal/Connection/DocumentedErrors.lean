import ReviewSignal.Services.GoogleAnswers

/-!
# Which failures of Google surface as documented errors

`_discover` translates the two errors of the integration layer, and `complete` raises `GoogleApiError`
itself.  Nothing catches what the code raises on a body it did not expect, so that such a body surfaces
as an opaque 500.

* **`documented_iff_answerable`** — the calls that raise documented errors only are exactly those whose
  answers can be read (`Answerable`).  The condition is one on the answers, in the order in which they are
  asked for: a request that is never made may be answered by anything.
* `complete_raises` — a `complete` that raises leaves the stored credential as it was, whatever it raises.
* `html_answer_undocumented` — a page of HTML under status 200, which `response.json()` refuses with an
  exception nobody translates.

**How it is proved.**  Each function of the two services has one lemma, an exact one (`Meets`): it raises
what is documented, and returns what the rest of the call asks for, if and only if its answers are readable.
The lemmas compose along the binds of the code, so the conditions read like the functions they are about.

An error of the client (`httpx`) is a parameter, and so is what decoding a body raises; of both it is assumed
that they are no exceptions of the application.
-/

namespace ReviewSignal

open GoogleReviewSourceAdapter (truthy)

/-- One of the errors a route documents for Google. -/
def Exn.Documented (exc : Exn) : Prop :=
  exc.typeName ∈ ["GoogleApiError", "GoogleNotConnectedError"]

instance (exc : Exn) : Decidable exc.Documented := inferInstanceAs (Decidable (_ ∈ _))

instance : Exn.Ours Exn.Documented where
  known exc h := by
    simp only [Exn.Documented, Exn.Known, List.mem_cons] at h ⊢
    tauto

theorem documented_googleApiError (message : String) : (googleApiError message).Documented := by
  simp [Exn.Documented, googleApiError]

theorem documented_googleNotConnectedError (message : String) :
    (googleNotConnectedError message).Documented := by
  simp [Exn.Documented, googleNotConnectedError]

namespace GoogleAnswers

variable [Cipher]

omit [Cipher] in
/-- `_discover` documents what the integration layer raises, and nothing else. -/
theorem documented_translated {exc : Exn} : (translated exc).Documented ↔ exc.Known := by
  rw [translated]
  split_ifs with hnot hfetch
  · simp [documented_googleNotConnectedError, Exn.Known, hnot]
  · simp [documented_googleApiError, Exn.Known, hfetch]
  · simp [Exn.Documented, Exn.Known, hnot, hfetch]

/-! ## The conditions

One predicate for each function that looks at a body. -/

/-- `encrypt(value)` does not raise. -/
def Encodable (env : GoogleEnv) (value : Json) : Prop := value.isStr ∧ env.encodes value.text

/-- `_refresh` can read a body: an object whose access token, if it has one, is a text and whose
`expires_in` is a whole number of seconds that leads to a date. -/
def RenewalReadable (env : GoogleEnv) (now : Instant) (body : Json) : Prop :=
  body.isObj ∧
    (truthy (body.getD "access_token" .null) →
      Encodable env (body.getD "access_token" .null) ∧
      ∃ expiresIn, (body.getD "expires_in" (.num 3600)).int env.unicode = some expiresIn ∧
        Python.Fits now (seconds expiresIn))

/-- A refresh raises what is documented, and the token it returns is as `walk` asks. -/
def RefreshReadable (env : GoogleEnv) (now : Instant) (credential : SourceCredential)
    (walk : String → Prop) : Prop :=
  (∀ token, credential.refreshTokenEncrypted = some token → env.undecryptable token = none) ∧
    ∀ statusCode text body, env.tokenAnswer = .response statusCode text body → statusCode < 300 →
      ∃ payload, body = .ok payload ∧ RenewalReadable env now payload ∧
        (truthy (payload.getD "access_token" .null) → walk (payload.getD "access_token" .null).text)

/-- The same of `resolve_access_token`: a stored token is taken only while it is valid. -/
def TokenReadable (env : GoogleEnv) (now : Instant) (credential : SourceCredential)
    (walk : String → Prop) : Prop :=
  match credential.accessTokenEncrypted with
  | none => RefreshReadable env now credential walk
  | some token =>
      (∀ expiresAt, credential.tokenExpiresAt = some expiresAt →
        Python.Fits expiresAt (-GoogleToken.expirySkew)) ∧
      if GoogleToken.stillValid now credential then
        env.undecryptable token = none ∧ walk (decrypt token)
      else RefreshReadable env now credential walk

/-- The payload of an entry can be built. -/
def PayloadOk (env : GoogleEnv) (found : Discovered) : Prop :=
  env.encodes found.resourceId ∧ found.label.isStr ∧ env.encodes found.label.text

/-- The answers to a discovery can be read. -/
def ListReadable (env : GoogleEnv) (now : Instant) (listing : Listing) (table : CredentialTable) : Prop :=
  ∀ credential, GoogleToken.loadCredential GoogleConnectionService.source table = .ok credential →
    TokenReadable env now credential fun accessToken =>
      listing.Readable env.toProfileApi accessToken (PayloadOk env) GoogleProfile.maxPages 0 none True

/-- `complete` can read a payload: an object in which, if there is a refresh token, the tokens are texts,
`expires_in` is a number of seconds that leads to a date, and the scopes are a text without NUL. -/
def GrantReadable (env : GoogleEnv) (now : Instant) (payload : Json) : Prop :=
  payload.isObj ∧
    (truthy (payload.getD "refresh_token" .null) →
      (payload.getD "expires_in" .null ≠ .null →
        ∃ duration, (payload.getD "expires_in" .null).duration = some duration ∧
          Python.Fits now duration) ∧
      (truthy (payload.getD "scope" (.str "")) → (payload.getD "scope" (.str "")).isStr) ∧
      Encodable env (payload.getD "refresh_token" .null) ∧
      (truthy (payload.getD "access_token" .null) → Encodable env (payload.getD "access_token" .null)) ∧
      ∀ scope ∈ Python.split env.unicode (payload.getD "scope" (.str "")).text, jsonbText env scope)

/-- The answer to an authorization code can be read. -/
def ExchangeReadable (env : GoogleEnv) (now : Instant) : Prop :=
  ∀ statusCode text body, env.tokenAnswer = .response statusCode text body →
    200 ≤ statusCode → statusCode < 300 → ∃ payload, body = .ok payload ∧ GrantReadable env now payload

/-! ## The functions meet them exactly

In the order of the calls: the token, the discoveries, the exchange. -/

section Rules

variable {raises : Exn → Prop} [Exn.Ours raises] {env : GoogleEnv} {now : Instant}

omit [Cipher] in
theorem meets_encodedText {value : Json} {returns : String → Prop} :
    Meets returns raises (encodedText env value) ↔ Encodable env value ∧ returns value.text := by
  simp only [encodedText, Encodable, meets_bind, meets_method, and_assoc]
  refine and_congr_right fun _ => ?_
  split_ifs with h
  · simp [h]
  · simp [h, Exn.Ours.foreign raises]

theorem meets_decrypted {ciphertext : Ciphertext} {returns : String → Prop} :
    Meets returns Exn.Known (decrypted env ciphertext)
      ↔ env.undecryptable ciphertext = none ∧ returns (decrypt ciphertext) := by
  rw [decrypted]
  cases h : env.undecryptable ciphertext with
  | none => simp
  | some exc => simp [env.undecryptable_foreign _ _ h]

omit [Cipher] in
theorem meets_renewal {body : Json} {returns : String → Prop} :
    Meets (fun renewed => returns renewed.1) Exn.Known (renewal env now body)
      ↔ RenewalReadable env now body ∧
        (truthy (body.getD "access_token" .null) → returns (body.getD "access_token" .null).text) := by
  simp only [renewal, RenewalReadable, meets_bind, meets_field, and_assoc]
  refine and_congr_right fun hobj => ?_
  split_ifs with htoken
  · simp only [meets_bind, meets_encodedText, meets_field, meets_toInt, meets_addDuration, meets_pure,
      hobj, htoken, true_and, forall_const, and_assoc, ← exists_and_right]
  · simp [htoken, known_sourceFetchError]

theorem meets_refresh {source : String} {credential : SourceCredential} {table : CredentialTable}
    {returns : String → Prop} (htoken : credential.refreshTokenEncrypted.isSome) :
    Meets returns Exn.Known (refresh env source now credential table).1
      ↔ RefreshReadable env now credential returns := by
  obtain ⟨refreshToken, hrefresh⟩ := Option.isSome_iff_exists.mp htoken
  simp only [refresh, RefreshReadable, hrefresh, Option.some.injEq, forall_eq', decrypted]
  cases hundecryptable : env.undecryptable refreshToken with
  | some exc => simp [env.undecryptable_foreign _ _ hundecryptable]
  | none =>
      have hforeign := env.tokenAnswer_foreign
      cases hanswer : env.tokenAnswer with
      | unreachable exc => simp [known_sourceFetchError]
      | response statusCode text body =>
          rw [hanswer] at hforeign
          simp only [true_and, HttpAnswer.forall_response]
          split_ifs with hrefused hfailed
          · refine iff_of_true (known_sourceNotConnectedError _) fun hok => ?_
            omega
          · refine iff_of_true (known_sourceFetchError _) fun hok => ?_
            omega
          · have hok : statusCode < 300 := by omega
            have hrenewal : Meets (fun renewed => returns renewed.1) Exn.Known (body >>= renewal env now)
                ↔ ∃ payload, body = .ok payload ∧ RenewalReadable env now payload ∧
                  (truthy (payload.getD "access_token" .null) →
                    returns (payload.getD "access_token" .null).text) := by
              rw [meets_bind, meets_of_never hforeign]
              simp only [meets_renewal]
            rw [← hrenewal, forall_prop_of_true hok]
            cases body >>= renewal env now <;> rfl

omit [Cipher] in
theorem meets_stillValid {credential : SourceCredential} {returns : Bool → Prop} :
    Meets returns Exn.Known (stillValid now credential)
      ↔ (∀ expiresAt, credential.tokenExpiresAt = some expiresAt →
          Python.Fits expiresAt (-GoogleToken.expirySkew)) ∧
        returns (GoogleToken.stillValid now credential) := by
  rw [stillValid, GoogleToken.stillValid]
  cases credential.tokenExpiresAt with
  | none => simp
  | some expiresAt => simp [meets_addDuration, sub_eq_add_neg]

/-- `_still_valid` as a first step, then whichever way it decides. -/
theorem resolveAccessToken_fst {source : String} {credential : SourceCredential}
    {table : CredentialTable} {token : Ciphertext}
    (htoken : credential.accessTokenEncrypted = some token) :
    (resolveAccessToken env source now credential table).1
      = stillValid now credential >>= fun valid =>
          if valid then decrypted env token else (refresh env source now credential table).1 := by
  rw [resolveAccessToken, htoken]
  rcases stillValid now credential with exc | ⟨⟩ | ⟨⟩ <;> rfl

theorem meets_resolveAccessToken {source : String} {credential : SourceCredential}
    {table : CredentialTable} {returns : String → Prop}
    (htoken : credential.refreshTokenEncrypted.isSome) :
    Meets returns Exn.Known (resolveAccessToken env source now credential table).1
      ↔ TokenReadable env now credential returns := by
  rw [TokenReadable]
  cases haccess : credential.accessTokenEncrypted with
  | none =>
      rw [resolveAccessToken, haccess]
      exact meets_refresh htoken
  | some token =>
      rw [resolveAccessToken_fst haccess, meets_bind, meets_stillValid]
      refine and_congr_right fun _ => ?_
      split_ifs
      · exact meets_decrypted
      · exact meets_refresh htoken

omit [Cipher] in
theorem known_loadCredential {source : String} {table : CredentialTable} {exc : Exn}
    (h : GoogleToken.loadCredential source table = .error exc) : exc.Known := by
  rw [GoogleToken.loadCredential] at h
  split at h
  · cases h
    exact known_sourceNotConnectedError _
  · split_ifs at h <;> cases h <;> exact known_sourceNotConnectedError _

theorem meets_accessToken {table : CredentialTable} {returns : String → Prop} :
    Meets returns Exn.Known (accessToken env now table).1
      ↔ ∀ credential,
          GoogleToken.loadCredential GoogleConnectionService.source table = .ok credential →
            TokenReadable env now credential returns := by
  rw [accessToken]
  cases hload : GoogleToken.loadCredential GoogleConnectionService.source table with
  | error exc => simp [known_loadCredential hload]
  | ok credential =>
      obtain ⟨-, hconnected⟩ := GoogleToken.loadCredential_eq_ok.mp hload
      simp [meets_resolveAccessToken (credential.connected_has_token hconnected)]

theorem meets_discover {listing : Listing} {table : CredentialTable} :
    Meets (fun found => ∀ entry ∈ found, PayloadOk env entry) Exn.Documented
        (discover env now listing table).1
      ↔ ListReadable env now listing table := by
  simp only [discover, meets_mapError, documented_translated, meets_bind, Listing.discoverAll,
    Listing.meets_discoverPages, meets_accessToken, ListReadable, List.not_mem_nil, false_imp_iff,
    implies_true]

omit [Cipher] in
theorem meets_payload {found : Discovered} {returns : String × String → Prop} :
    Meets returns Exn.Documented (payload env found)
      ↔ PayloadOk env found ∧ returns (found.resourceId, found.label.text) := by
  rw [payload, PayloadOk]
  split_ifs with h
  · simp [h]
  · simp [h, Exn.Ours.foreign Exn.Documented]

omit [Cipher] in
theorem documented_ensureConnected {table : CredentialTable} {exc : Exn}
    (h : GoogleConnectionService.ensureConnected table = .error exc) : exc.Documented := by
  rw [GoogleConnectionService.ensureConnected] at h
  split at h
  · cases h
    exact documented_googleNotConnectedError _
  · split_ifs at h
    cases h
    exact documented_googleNotConnectedError _

omit [Cipher] in
theorem ensureConnected_of_loadCredential {table : CredentialTable} {credential : SourceCredential}
    (h : GoogleToken.loadCredential GoogleConnectionService.source table = .ok credential) :
    GoogleConnectionService.ensureConnected table = .ok () := by
  obtain ⟨hrow, hconnected⟩ := GoogleToken.loadCredential_eq_ok.mp h
  simp [GoogleConnectionService.ensureConnected, CredentialRepository.get, hrow, hconnected]

theorem meets_list {listing : Listing} {table : CredentialTable} :
    Meets (fun _ => True) Exn.Documented (list env now listing table).1
      ↔ ListReadable env now listing table := by
  rw [list]
  cases hconnected : GoogleConnectionService.ensureConnected table with
  | error exc =>
      refine iff_of_true (documented_ensureConnected hconnected) fun credential hload => ?_
      rw [ensureConnected_of_loadCredential hload] at hconnected
      cases hconnected
  | ok =>
      simp only [meets_bind, meets_mapM fun _ _ _ => meets_payload, and_true, meets_discover]

omit [Cipher] in
theorem meets_expiry {expiresIn : Json} {p : Prop} :
    Meets (fun _ => p) raises (expiry now expiresIn)
      ↔ (expiresIn ≠ .null →
          ∃ duration, expiresIn.duration = some duration ∧ Python.Fits now duration) ∧ p := by
  rw [expiry]
  split_ifs with hnull
  · simp [hnull]
  · simp [hnull, meets_toDuration, meets_addDuration, ← and_assoc]

omit [Cipher] in
theorem meets_optionalText {value : Json} {p : Prop} :
    Meets (fun _ => p) raises (optionalText env value)
      ↔ (truthy value → Encodable env value) ∧ p := by
  rw [optionalText]
  split_ifs with htruthy
  · simp [htruthy, meets_encodedText]
  · simp [htruthy]

omit [Cipher] in
theorem meets_scopes {scopeString : Json} {returns : List String → Prop} :
    Meets returns raises (scopes env scopeString)
      ↔ (truthy scopeString → scopeString.isStr) ∧
        returns (Python.split env.unicode scopeString.text) := by
  rw [scopes]
  split_ifs with htruthy
  · simp [htruthy, meets_method]
  · have hempty : Python.split env.unicode scopeString.text = [] := by
      cases scopeString <;> simp_all [truthy, Json.text, Python.split]
    simp [htruthy, hempty]

omit [Cipher] in
theorem meets_grant {payload : Json} :
    Meets (fun _ => True) Exn.Documented (grant env now payload) ↔ GrantReadable env now payload := by
  simp only [grant, GrantReadable, meets_bind, meets_field]
  refine and_congr_right fun hobj => ?_
  split_ifs with hrefresh
  · simp only [meets_bind, meets_field, hobj, true_and, hrefresh, forall_const, meets_ite, meets_pure,
      meets_error, implies_true, meets_optionalText, meets_encodedText, meets_scopes, meets_expiry]
    have hdata : ¬ Exn.Documented ⟨"DataError", "unsupported Unicode escape sequence"⟩ := by decide
    simp only [hdata, imp_false, not_not, List.all_eq_true]
  · simp [hrefresh, documented_googleApiError]

theorem meets_complete {table : CredentialTable} :
    Meets (fun _ => True) Exn.Documented (complete env now table).1 ↔ ExchangeReadable env now := by
  rw [complete, ExchangeReadable]
  have hforeign := env.tokenAnswer_foreign
  cases hanswer : env.tokenAnswer with
  | unreachable exc => simp [documented_googleApiError]
  | response statusCode text body =>
      rw [hanswer] at hforeign
      simp only [HttpAnswer.forall_response]
      split_ifs with hok
      · have hgrant : Meets (fun _ => True) Exn.Documented (body >>= grant env now)
            ↔ ∃ payload, body = .ok payload ∧ GrantReadable env now payload := by
          rw [meets_bind, meets_of_never fun exc hbody h => hforeign exc hbody (Exn.Ours.known _ h)]
          simp only [meets_grant]
        rw [← hgrant, forall_prop_of_true hok.1, forall_prop_of_true hok.2]
        cases body >>= grant env now <;> rfl
      · refine iff_of_true (documented_googleApiError _) fun hlow hhigh => ?_
        exact absurd ⟨hlow, hhigh⟩ hok

/-- **A `complete` that raises leaves the stored credential as it was.** -/
theorem complete_raises {table : CredentialTable} {exc : Exn}
    (h : (complete env now table).1 = .error exc) : (complete env now table).2 = table := by
  rw [complete] at h ⊢
  cases hanswer : env.tokenAnswer with
  | unreachable exc => rfl
  | response statusCode text body =>
      simp only [hanswer] at h ⊢
      split_ifs at h ⊢
      · cases hgrant : body >>= grant env now with
        | error exc => rfl
        | ok grant => simp [hgrant] at h
      · rfl

end Rules

end GoogleAnswers

/-! ## The three calls

The callback and the two listings, each under the condition of its answers. -/

/-- A call of `GoogleConnectionService` that talks to Google. -/
inductive GoogleCall where
  | complete
  | listAccounts
  | listLocations (accountId : String)
  deriving DecidableEq, Repr

namespace GoogleCall

open GoogleAnswers

section AnyCipher

variable [Cipher]

/-- What a call raises is a documented error, and if `complete` raises then the stored credential is
unchanged. -/
def Documented (env : GoogleEnv) (now : Instant) (table : CredentialTable) : GoogleCall → Prop
  | .complete => ∀ exc, (GoogleAnswers.complete env now table).1 = .error exc →
      exc.Documented ∧ (GoogleAnswers.complete env now table).2 = table
  | .listAccounts =>
      ∀ exc, (GoogleAnswers.listAccounts env now table).1 = .error exc → exc.Documented
  | .listLocations accountId =>
      ∀ exc, (GoogleAnswers.listLocations env now accountId table).1 = .error exc → exc.Documented

/-- The answers to a call can be read. -/
def Answerable (env : GoogleEnv) (now : Instant) (table : CredentialTable) : GoogleCall → Prop
  | .complete => ExchangeReadable env now
  | .listAccounts => ListReadable env now GoogleProfile.accounts table
  | .listLocations accountId => ListReadable env now (GoogleProfile.locations accountId) table

/-- **Exactly the calls whose answers can be read raise documented errors only**, whatever Google answers, at
any time and over any stored credential. -/
theorem documented_iff_answerable (env : GoogleEnv) (now : Instant) (table : CredentialTable)
    (call : GoogleCall) : call.Documented env now table ↔ call.Answerable env now table := by
  cases call with
  | complete =>
      simp only [Documented, Answerable, ← @meets_complete _ env now table, meets_true_iff]
      exact forall₂_congr fun exc h => and_iff_left (complete_raises h)
  | listAccounts =>
      simp only [Documented, Answerable, ← meets_list, meets_true_iff]
      rfl
  | listLocations accountId =>
      simp only [Documented, Answerable, ← meets_list, meets_true_iff]
      rfl

end AnyCipher

open scoped PlainCipher

/-- Google answers the authorization code with a page of HTML under status 200. -/
def htmlAnswer : GoogleEnv where
  answer _ _ := .unreachable ⟨"ConnectError", "connection refused"⟩
  refused _ := none
  queryValues _ := []
  str _ := ""
  answer_foreign _ _ := trivial
  refused_foreign := nofun
  tokenAnswer := .response 200 "<html></html>" (.error ⟨"JSONDecodeError", "Expecting value"⟩)
  undecryptable _ := none
  encodes _ := true
  unicode := ⟨fun c => c = ' ', fun _ => none⟩
  tokenAnswer_foreign exc h := by
    cases h
    decide
  undecryptable_foreign := nofun

/-- Decoding the body raises, and nothing translates that. -/
theorem html_answer_undocumented : ¬ GoogleCall.complete.Documented htmlAnswer 0 ∅ := by
  intro h
  have hexc := (h ⟨"JSONDecodeError", "Expecting value"⟩ rfl).1
  revert hexc
  decide

end GoogleCall

end ReviewSignal
