import ReviewSignal.Foundations.FormUrlEncoded
import ReviewSignal.Foundations.Provenance
import ReviewSignal.Foundations.Simulation
import ReviewSignal.Web.OperatorSession
import Mathlib.Data.Rat.Floor
import Mathlib.Tactic.Positivity

/-!
# The cookies do what the sessions say

* `lockstep` — an event does to the cookies and the responses under way what it does to the sessions they
  stand for;
* **`visit_run`** — whatever has happened, a browser is shown its pages exactly while its session lasts, and
  is sent to `/login` else;
* **`login_of_shown`** — who is shown a page has logged in with the password, under the present secret, and
  less than twelve hours ago.  The password is the one that was set at the time of the login: unsetting it
  ends no session, since a session is checked against the secret alone.

**What stands for what** (`Refines`).  A cookie of a browser stands for the session of the login that set it,
a response under way brings the session of its login, and a session ends by a logout or with its hour.  The
cookie may be sent after that; it is the signed expiry that decides.

Of the MAC it is needed that it tells the present secret from the earlier ones (`Separated`).  Forged cookies
are another matter (`SessionTokens`): a browser here has no cookie but those it was sent.
-/

namespace ReviewSignal

namespace OperatorSession

open Auth

variable {α β : Type}
variable {env : Env} {settings : Settings} {now : ℤ} {password : String} {call : IssueCall}

/-! ## The password

`compare_digest` of two texts, encoded. -/

theorem encode_inj {a b : String} : encode a = encode b ↔ a = b := by
  refine ⟨fun h => ?_, congrArg encode⟩
  have hdecoded := congrArg FormUrlEncoded.decodeUtf8 h
  rw [encode, encode, FormUrlEncoded.decodeUtf8_encode, FormUrlEncoded.decodeUtf8_encode] at hdecoded
  exact String.toList_inj.mp hdecoded

theorem passwordMatches_iff {supplied configured : String} :
    passwordMatches supplied configured = true ↔ configured ≠ "" ∧ supplied = configured := by
  rw [passwordMatches]
  split_ifs with hempty
  · simp [hempty]
  · rw [decide_eq_true_eq, encode_inj]
    exact (and_iff_right hempty).symm

/-- The cookie of a login that is granted. -/
def sessionCookie (env : Env) (call : IssueCall) : String :=
  token call.payload (sign env.hmac call.secret call.payload)

/-- A login is granted exactly as the specification says. -/
theorem login_of_grants {t : Spec β} (h : t.Grants password) : login env t.settings t.now password
    = .ok (⟨true⟩, ⟨sessionCookie env ⟨t.settings.sessionSecret, sessionTtl, t.now⟩, 43200⟩) := by
  obtain ⟨hlength, hconfigured, hpassword, hfits⟩ := h
  have hissued := issued_eq_ok_iff.mpr
    ⟨hfits, (rfl : sessionCookie env ⟨t.settings.sessionSecret, sessionTtl, t.now⟩ = _)⟩
  rw [IssueCall.issued] at hissued
  rw [login, if_neg (Nat.not_lt.mpr hlength),
    if_neg (not_not.mpr (passwordMatches_iff.mpr ⟨hconfigured, hpassword⟩)), hissued]
  rfl

theorem login_of_not_grants {t : Spec β} (h : ¬ t.Grants password) :
    ∃ exc, login env t.settings t.now password = .error exc := by
  rw [login]
  split_ifs with hlength hmatches
  · exact ⟨_, rfl⟩
  · have hpassword := passwordMatches_iff.mp hmatches
    have hfits : ¬ Python.Fits t.now sessionTtl := fun hfits =>
      h ⟨Nat.not_lt.mp hlength, hpassword.1, hpassword.2, hfits⟩
    obtain ⟨message, hraises⟩ := Python.addDuration_of_not_fits hfits
    rw [issueToken, hraises]
    exact ⟨_, rfl⟩
  · exact ⟨_, rfl⟩

/-! ## What a cookie stands for

A cookie and the session it stands for have a login in common, which is found among the calls. -/

/-- The value of the cookie is one a call returned, and its session that of the call. -/
def StandsFor (env : Env) (history : List IssueCall) (value : String) (session : Session) : Prop :=
  ∃ call ∈ history, call.issued env.hmac = .ok value ∧ 0 ≤ call.now ∧ call.ttl = sessionTtl ∧
    session = ⟨call.secret, expiresAt call.ttl call.now⟩

/-- A cookie in a browser stands for the session, and is kept until it ends. -/
def Stored (env : Env) (w : World β) : Option StoredCookie → Option Session → Prop
  | none, none => True
  | some cookie, some session => StandsFor env w.history cookie.value session ∧
      session.expires * 1000000 ≤ cookie.expires
  | _, _ => False

/-- A response under way brings the session. -/
def Brings (env : Env) (w : World β) (response : β × SetCookie) (reply : β × Option Session) : Prop :=
  response.1 = reply.1 ∧ match reply.2 with
    | none => response.2.maxAge ≤ 0
    | some session => StandsFor env w.history response.2.value session ∧ response.2.maxAge = 43200

/-- The system and what it stands for. -/
structure Refines (env : Env) (w : World β) (t : Spec β) : Prop where
  settings : t.settings = w.settings
  now : t.now = w.now
  since_epoch : 0 ≤ w.now
  past : ∀ call ∈ w.history, call.now ≤ w.now
  jar : ∀ browser, Stored env w (w.jar browser) (t.sessions browser)
  inFlight : List.Forall₂ (Brings env w) w.inFlight t.inFlight

/-! ## The steps

Calls are only added to, so what stood for a session still does. -/

/-- What is signed is letters, digits, a minus sign and a dot, and comes through the headers as it is. -/
theorem transmit_issued {value : String} (h : call.issued env.hmac = .ok value) :
    env.transmit value = value := by
  obtain ⟨-, rfl⟩ := issued_eq_ok_iff.mp h
  refine env.transmit_plain _ fun c hc => ?_
  rw [toList_token] at hc
  rcases List.mem_append.mp hc with hc | hc
  · rcases Python.mem_str hc with hdigit | hminus
    · exact .inl (by simp [Char.isAlphanum, hdigit])
    · exact .inr (.inl hminus)
  · rcases List.mem_cons.mp hc with hdot | hc
    · exact .inr (.inr hdot)
    · have halphanum : ∀ c ∈ "0123456789abcdef".toList, c.isAlphanum = true :=
        forall_mem_of_all (by decide)
      exact .inl (halphanum c (env.hmac.isHex _ _ c hc))

/-- A token ends within twelve hours of its call. -/
theorem expiresAt_le (hnow : 0 ≤ now) :
    expiresAt sessionTtl now * 1000000 ≤ now + sessionTtl := by
  have hsum : (0 : ℚ) ≤ timestamp (now + sessionTtl) := by
    rw [timestamp]
    have hmoment : 0 ≤ now + sessionTtl := add_nonneg hnow (by decide)
    positivity
  have hfloor : expiresAt sessionTtl now = ⌊timestamp (now + sessionTtl)⌋ := by
    rw [expiresAt, Python.truncate, Int.tdiv_eq_ediv_of_nonneg (Rat.num_nonneg.mpr hsum), Rat.floor_def']
  have hle : (expiresAt sessionTtl now : ℚ) ≤ timestamp (now + sessionTtl) := by
    rw [hfloor]
    exact Int.floor_le _
  rw [timestamp, le_div_iff₀ (by norm_num)] at hle
  exact_mod_cast hle

theorem StandsFor.mono {history later : List IssueCall} {value : String} {session : Session}
    (h : StandsFor env history value session) (hsubset : ∀ call ∈ history, call ∈ later) :
    StandsFor env later value session := by
  obtain ⟨call, hcall, hrest⟩ := h
  exact ⟨call, hsubset call hcall, hrest⟩

theorem Stored.mono {w w' : World β} {cookie : Option StoredCookie} {session : Option Session}
    (h : Stored env w cookie session) (hsubset : ∀ call ∈ w.history, call ∈ w'.history) :
    Stored env w' cookie session := by
  cases cookie <;> cases session
  · trivial
  · exact h
  · exact h
  · exact ⟨h.1.mono hsubset, h.2⟩

theorem Brings.mono {w w' : World β} {response : β × SetCookie} {reply : β × Option Session}
    (h : Brings env w response reply) (hsubset : ∀ call ∈ w.history, call ∈ w'.history) :
    Brings env w' response reply := by
  obtain ⟨browser, session⟩ := reply
  cases session with
  | none => exact h
  | some session => exact ⟨h.1, h.2.1.mono hsubset, h.2.2⟩

/-- What arrives is kept as long as its session, if it brings one. -/
theorem stored_of_brings {w : World β} {response : β × SetCookie} {reply : β × Option Session}
    (h : Brings env w response reply) (hpast : ∀ call ∈ w.history, call.now ≤ w.now) :
    Stored env w (stored env w.now response.2) reply.2 := by
  obtain ⟨browser, session⟩ := reply
  obtain ⟨-, h⟩ := h
  cases session with
  | none =>
      rw [stored, if_pos h]
      trivial
  | some session =>
      obtain ⟨⟨call, hcall, hissued, hnow, httl, rfl⟩, hmaxAge⟩ := h
      rw [stored, hmaxAge, if_neg (by decide), transmit_issued hissued]
      refine ⟨⟨call, hcall, hissued, hnow, httl, rfl⟩, ?_⟩
      have hle := expiresAt_le hnow
      have hbefore := hpast call hcall
      rw [httl]
      have httl' : sessionTtl = 43200 * 1000000 := by decide
      show expiresAt sessionTtl call.now * 1000000 ≤ w.now + 43200 * 1000000
      omega

/-- A response is under way besides the others. -/
theorem Refines.sent {w : World β} {t : Spec β} (h : Refines env w t) (w' : World β)
    (response : β × SetCookie) (reply : β × Option Session) (hnow : w'.now = w.now)
    (hsettings : w'.settings = w.settings) (hjar : w'.jar = w.jar)
    (hpast : ∀ call ∈ w'.history, call.now ≤ w.now)
    (hsubset : ∀ call ∈ w.history, call ∈ w'.history) (hinFlight : w'.inFlight = w.inFlight ++ [response])
    (hbrings : Brings env w' response reply) :
    Refines env w' { t with inFlight := t.inFlight ++ [reply] } where
  settings := h.settings.trans hsettings.symm
  now := h.now.trans hnow.symm
  since_epoch := hnow ▸ h.since_epoch
  past := hnow ▸ hpast
  jar browser := by
    rw [hjar]
    exact (h.jar browser).mono hsubset
  inFlight := by
    rw [hinFlight]
    exact List.rel_append (h.inFlight.imp fun _ _ hbrings => hbrings.mono hsubset)
      (.cons hbrings .nil)

/-! ## What is seen

The middleware looks whether there is a cookie, and the routes whether it is good. -/

/-- The MAC tells the present secret from those of the calls there were. -/
def Separated (env : Env) (w : World β) : Prop :=
  ∀ call ∈ w.history, call.secret ≠ w.settings.sessionSecret →
    sign env.hmac call.secret call.payload ≠ sign env.hmac w.settings.sessionSecret call.payload

theorem timestamp_lt {n : ℤ} : timestamp now < n ↔ now < n * 1000000 := by
  rw [timestamp, div_lt_iff₀ (by norm_num)]
  exact_mod_cast Iff.rfl

/-- A cookie is accepted while its session lasts. -/
theorem verifyToken_of_standsFor {w : World β} (hseparated : Separated env w) {value : String}
    {session : Session} (h : StandsFor env w.history value session) :
    verifyToken env.hmac env.unicode w.settings.sessionSecret value w.now
      = .ok (decide (session.secret = w.settings.sessionSecret ∧ w.now < session.expires * 1000000)) := by
  obtain ⟨call, hcall, hissued, -, -, rfl⟩ := h
  obtain ⟨hfits, rfl⟩ := issued_eq_ok_iff.mp hissued
  have hsignature : signature (token call.payload (sign env.hmac call.secret call.payload))
      = sign env.hmac call.secret call.payload := signature_token _ _
  have hpayload : payload (token call.payload (sign env.hmac call.secret call.payload))
      = call.payload := payload_token _ _
  obtain ⟨accepted, haccepted⟩ := ((failsClosed_iff env.hmac env.unicode w.settings.sessionSecret
    (token call.payload (sign env.hmac call.secret call.payload)) w.now).mpr
      (.inr (by rw [hsignature]; exact isAscii_hexdigest _ _ _))).returns
  rw [haccepted, Except.ok.injEq, Bool.eq_iff_iff, decide_eq_true_eq]
  constructor
  · rintro rfl
    obtain ⟨-, -, hsigned, n, hparse, hnow⟩ := verifyToken_eq_true_iff.mp haccepted
    rw [hsignature, hpayload] at hsigned
    rw [hpayload, parseInt_payload env.knowsAscii hfits] at hparse
    cases hparse
    refine ⟨?_, timestamp_lt.mp hnow⟩
    by_contra hsecret
    exact hseparated call hcall hsecret hsigned
  · rintro ⟨hsecret, hnow⟩
    have htrue := verifyToken_of_issued env.knowsAscii hissued (timestamp_lt.mpr hnow)
    have hsecret : call.secret = w.settings.sessionSecret := hsecret
    rw [hsecret] at htrue haccepted
    rw [htrue] at haccepted
    exact (Except.ok.inj haccepted).symm

theorem token_ne_empty (p s : String) : token p s ≠ "" := by
  intro h
  have htext := toList_token p s
  rw [h] at htext
  simp at htext

/-- A browser sends the cookie of its session, or none when it has no session that lasts. -/
theorem present_cases {w : World β} {t : Spec β} (h : Refines env w t) (browser : β) :
    (present w browser = none ∧ ¬ t.Authenticated browser) ∨
      ∃ value session, present w browser = some value ∧ t.sessions browser = some session ∧
        StandsFor env w.history value session := by
  have hstored := h.jar browser
  cases hcookie : w.jar browser with
  | none =>
      refine .inl ⟨by rw [present, hcookie]; rfl, ?_⟩
      rintro ⟨session, hsession, -⟩
      rw [hcookie, Option.mem_def.mp hsession] at hstored
      exact hstored
  | some cookie =>
      cases hsession : t.sessions browser with
      | none =>
          rw [hcookie, hsession] at hstored
          exact hstored.elim
      | some session =>
          rw [hcookie, hsession] at hstored
          obtain ⟨hstands, hexpires⟩ := hstored
          by_cases hkept : w.now < cookie.expires
          · exact .inr ⟨cookie.value, session, by simp [present, hcookie, hkept], rfl, hstands⟩
          · refine .inl ⟨by simp [present, hcookie, not_lt.mp hkept], ?_⟩
            rintro ⟨session', hsession', -, hnow⟩
            obtain rfl : session = session' := by
              rw [Option.mem_def, hsession] at hsession'
              exact Option.some.inj hsession'
            rw [h.now] at hnow
            omega

/-- The guard lets a browser through while its session lasts. -/
theorem requireSession_present {w : World β} {t : Spec β} (h : Refines env w t)
    (hseparated : Separated env w) (browser : β) :
    requireSession env.hmac env.unicode w.settings.sessionSecret
        ((present w browser).filter (· ≠ "")) w.now
      = if t.Authenticated browser then .ok ()
        else .error (unauthorizedError "Authentication is required.") := by
  rcases present_cases h browser with ⟨hnone, hnot⟩ | ⟨value, session, hvalue, hsession, hstands⟩
  · rw [hnone, if_neg hnot]
    rfl
  · have hne : value ≠ "" := by
      obtain ⟨call, -, hissued, -⟩ := hstands
      rw [(issued_eq_ok_iff.mp hissued).2]
      exact token_ne_empty _ _
    have hauthenticated : t.Authenticated browser ↔
        session.secret = w.settings.sessionSecret ∧ w.now < session.expires * 1000000 := by
      rw [Spec.Authenticated, hsession, h.settings, h.now]
      simp
    rw [hvalue, Option.filter_some_pos (by simpa using hne),
      requireSession_of_returned (verifyToken_of_standsFor hseparated hstands)]
    simp only [decide_eq_true_eq, hauthenticated]

/-- The pages are behind the middleware. -/
theorem middleware_pathname (page : Page) (cookie : Option String) :
    middleware page.pathname cookie = if cookie.isNone then some "/login" else none := by
  have hpublic : ¬ (page.pathname = "/login" ∨ "/api/".toList.isPrefixOf page.pathname.toList) := by
    cases page <;> simp [Page.pathname, ← String.toList_inj]
  rw [middleware, if_neg hpublic]

/-- What a page shows of what its routes answer. -/
def shownOf (handlers : Router → String → Except Exn α) (page : Page) : Seen α :=
  render (page.calls.map fun call => (respond 200 (handlers call.1 call.2)).body)

theorem guarded_of_mem_calls {page : Page} {call : Router × String} (h : call ∈ page.calls) :
    call.1.guarded = true := by
  have hall : page.calls.all (·.1.guarded) = true := by cases page <;> rfl
  exact List.all_eq_true.mp hall call h

/-- A page that is refused sends to the login. -/
theorem render_of_unauthorized {page : Page} {message : String} :
    render (page.calls.map fun _ => (.error ⟨.unauthorized, message⟩ : Except ApiError α))
      = .redirect "/login" := by
  cases page <;> rfl

/-- **A browser is shown its pages while its session lasts.** -/
theorem visit_of_refines {w : World β} {t : Spec β} (h : Refines env w t) (hseparated : Separated env w)
    (handlers : Router → String → Except Exn α) (browser : β) (page : Page) :
    visit env w handlers browser page
      = if t.Authenticated browser then shownOf handlers page else .redirect "/login" := by
  have hguard := requireSession_present h hseparated browser
  have hanswer (call : Router × String) (hcall : call ∈ page.calls) :
      apiGet env w.settings w.now handlers (present w browser) call
        = if t.Authenticated browser then (respond 200 (handlers call.1 call.2)).body
          else .error ⟨.unauthorized, "Authentication is required."⟩ := by
    rw [apiGet, serve, if_pos (guarded_of_mem_calls hcall), hguard]
    split_ifs <;> rfl
  rw [visit, middleware_pathname]
  by_cases hauthenticated : t.Authenticated browser
  · rw [if_pos hauthenticated]
    rcases present_cases h browser with ⟨-, hnot⟩ | ⟨value, -, hvalue, -⟩
    · exact absurd hauthenticated hnot
    · rw [hvalue] at hanswer ⊢
      show render _ = _
      rw [shownOf, List.map_congr_left hanswer]
      simp only [if_pos hauthenticated]
  · rw [if_neg hauthenticated]
    cases hvalue : present w browser with
    | none => rfl
    | some value =>
        rw [hvalue] at hanswer
        show render _ = _
        rw [List.map_congr_left hanswer]
        simp only [if_neg hauthenticated]
        exact render_of_unauthorized

theorem refines_start (env : Env) (settings : Settings) (hnow : 0 ≤ now) :
    Refines env (start settings now : World β) (Spec.start settings now) where
  settings := rfl
  now := rfl
  since_epoch := hnow
  past := nofun
  jar _ := trivial
  inFlight := .nil

variable [DecidableEq β]

theorem lockstep_login {w : World β} {t : Spec β} (h : Refines env w t) (browser : β) (password : String) :
    Option.Rel (Refines env) (step env w (.login browser password)) (t.step (.login browser password)) := by
  rw [step, Spec.step]
  by_cases hgrants : t.Grants password
  · have hlogin := @login_of_grants _ env password t hgrants
    have hfits := hgrants.2.2.2
    rw [h.settings, h.now] at hlogin
    rw [h.now] at hfits
    rw [hlogin, if_pos hgrants]
    refine .some ?_
    refine h.sent _ (browser, _) (browser, some t.granted) rfl rfl rfl ?_
      (fun call hcall => List.mem_append_left _ hcall) rfl ?_
    · intro call hcall
      rcases List.mem_append.mp hcall with hcall | hcall
      · exact h.past call hcall
      · rw [List.mem_singleton.mp hcall]
    · refine ⟨rfl, ⟨⟨w.settings.sessionSecret, sessionTtl, w.now⟩, by simp,
        issued_eq_ok_iff.mpr ⟨hfits, rfl⟩, h.since_epoch, rfl, ?_⟩, rfl⟩
      rw [Spec.granted, h.settings, h.now]
  · obtain ⟨exc, hlogin⟩ := @login_of_not_grants _ env password t hgrants
    rw [h.settings, h.now] at hlogin
    rw [hlogin, if_neg hgrants]
    exact .some h

/-- **An event does to the system what it does to the sessions.** -/
theorem lockstep (env : Env) : Lockstep (step env) (@Spec.step β _) (Refines env) := by
  rintro w t (microseconds | settings | ⟨browser, password⟩ | browser | i | i) h
  · refine .some ⟨h.settings, ?_, ?_, ?_, h.jar, h.inFlight⟩
    · exact congrArg (· + (microseconds : ℤ)) h.now
    · exact add_nonneg h.since_epoch (Int.natCast_nonneg _)
    · intro call hcall
      have hbefore := h.past call hcall
      show call.now ≤ w.now + microseconds
      omega
  · exact .some ⟨rfl, h.now, h.since_epoch, h.past, h.jar, h.inFlight⟩
  · exact lockstep_login h browser password
  · refine .some ?_
    exact h.sent _ (browser, logout.2) (browser, none) rfl rfl rfl h.past (fun _ hcall => hcall) rfl
      ⟨rfl, le_rfl⟩
  · have hrel := forall₂_getElem? h.inFlight i
    rw [step, Spec.step]
    cases hresponse : w.inFlight[i]? <;> cases hreply : t.inFlight[i]? <;>
      rw [hresponse, hreply] at hrel <;> cases hrel
    · exact .none
    · rename_i response reply hbrings
      have hbrowser := hbrings.1
      refine .some ⟨h.settings, h.now, h.since_epoch, h.past, fun browser => ?_,
        forall₂_eraseIdx h.inFlight i⟩
      rcases eq_or_ne browser reply.1 with rfl | hne
      · show Stored env w (Function.update w.jar response.1 (stored env w.now response.2) reply.1)
          (Function.update t.sessions reply.1 reply.2 reply.1)
        rw [hbrowser, Function.update_self, Function.update_self]
        exact stored_of_brings hbrings h.past
      · show Stored env w (Function.update w.jar response.1 (stored env w.now response.2) browser)
          (Function.update t.sessions reply.1 reply.2 browser)
        rw [hbrowser, Function.update_of_ne hne, Function.update_of_ne hne]
        exact h.jar browser
  · rw [step, Spec.step, h.inFlight.length_eq]
    split_ifs
    · exact .some ⟨h.settings, h.now, h.since_epoch, h.past, h.jar, forall₂_eraseIdx h.inFlight i⟩
    · exact .none

/-! ## Runs

By the refinement rule of the library, from a system nobody has used. -/

/-- The headers change nothing, and the MAC is the sample. -/
def sampleEnv : Env := ⟨sampleHmac, asciiUnicode, id, knowsAscii_asciiUnicode, fun _ _ => rfl⟩

def sampleSettings : Settings := ⟨"maple", "first-secret"⟩

/-- A login that is answered, and a page an hour later. -/
def loginAndWait : List (Event Unit) := [.login () "maple", .arrive 0, .elapse 3600000000]

def afterLogin : World Unit where
  settings := sampleSettings
  now := 1700000000000000 + 3600000000
  jar := Function.update (fun _ => none) () (stored sampleEnv 1700000000000000
    ⟨sessionCookie sampleEnv ⟨"first-secret", sessionTtl, 1700000000000000⟩, 43200⟩)
  inFlight := []
  history := [⟨"first-secret", sessionTtl, 1700000000000000⟩]

theorem exec_loginAndWait :
    exec (step sampleEnv) (start sampleSettings 1700000000000000) loginAndWait = some afterLogin := by
  have hlogin : login sampleEnv (start sampleSettings 1700000000000000 : World Unit).settings
      (start sampleSettings 1700000000000000 : World Unit).now "maple" = .ok (⟨true⟩,
        ⟨sessionCookie sampleEnv ⟨"first-secret", sessionTtl, 1700000000000000⟩, 43200⟩) :=
    @login_of_grants Unit sampleEnv "maple" (.start sampleSettings 1700000000000000) (by decide +kernel)
  rw [loginAndWait, exec, step, hlogin]
  rfl

/-- **A browser is shown its pages exactly while its session lasts**, whatever has happened, of which the
sessions know everything that matters. -/
theorem visit_run (env : Env) (settings : Settings) (now : ℤ) (events : List (Event β)) (w : World β)
    (handlers : Router → String → Except Exn α) (hnow : 0 ≤ now)
    (hrun : exec (step env) (start settings now) events = some w) (hseparated : Separated env w) :
    ∃ t, exec Spec.step (Spec.start settings now) events = some t ∧
      ∀ browser page, visit env w handlers browser page
        = if t.Authenticated browser then shownOf handlers page else .redirect "/login" := by
  obtain ⟨t, ht, hrefines⟩ :=
    exists_of_exec_lockstep (lockstep env) (refines_start env settings hnow) hrun
  exact ⟨t, ht, visit_of_refines hrefines hseparated handlers⟩

/-- The secret was the same throughout. -/
theorem separated_afterLogin : Separated sampleEnv afterLogin := by
  intro call hcall hne
  rw [List.mem_singleton.mp hcall] at hne
  exact absurd rfl hne

theorem visit_run_loginAndWait :
    ∃ t, exec Spec.step (Spec.start sampleSettings 1700000000000000) loginAndWait = some t ∧
      ∀ browser page, visit sampleEnv afterLogin (fun _ _ => Except.ok "data") browser page
        = if t.Authenticated browser then shownOf (fun _ _ => Except.ok "data") page
          else .redirect "/login" :=
  visit_run sampleEnv sampleSettings 1700000000000000 loginAndWait afterLogin
    (fun _ _ => Except.ok "data") (by decide) exec_loginAndWait separated_afterLogin

/-! ## Where a session comes from

Each session of a run goes back to an event that began it. -/

/-- The browser has the session, or is to get it. -/
def Has (t : Spec β) (begun : β × Session) : Prop :=
  begun.2 ∈ t.sessions begun.1 ∨ (begun.1, some begun.2) ∈ t.inFlight

/-- The event is a login of the browser that is granted the session. -/
def Begins (t : Spec β) (e : Event β) (begun : β × Session) : Prop :=
  ∃ password, e = .login begun.1 password ∧ t.Grants password ∧ begun.2 = t.granted

theorem has_of_step {t t' : Spec β} {e : Event β} {begun : β × Session} (hstep : t.step e = some t')
    (h : Has t' begun) : Has t begun ∨ Begins t e begun := by
  obtain ⟨browser, session⟩ := begun
  rcases e with microseconds | settings | ⟨browser', password⟩ | browser' | i | i
  · cases hstep
    exact .inl h
  · cases hstep
    exact .inl h
  · rw [Spec.step] at hstep
    split_ifs at hstep with hgrants
    · cases hstep
      rcases h with h | h
      · exact .inl (.inl h)
      · rcases List.mem_append.mp h with h | h
        · exact .inl (.inr h)
        · cases List.mem_singleton.mp h
          exact .inr ⟨password, rfl, hgrants, rfl⟩
    · cases hstep
      exact .inl h
  · cases hstep
    rcases h with h | h
    · exact .inl (.inl h)
    · rcases List.mem_append.mp h with h | h
      · exact .inl (.inr h)
      · cases List.mem_singleton.mp h
  · rw [Spec.step] at hstep
    cases hreply : t.inFlight[i]? with
    | none =>
        rw [hreply] at hstep
        cases hstep
    | some reply =>
        rw [hreply] at hstep
        cases hstep
        rcases h with h | h
        · have h : session ∈ Function.update t.sessions reply.1 reply.2 browser := h
          by_cases hbrowser : browser = reply.1
          · rw [hbrowser, Function.update_self, Option.mem_def] at h
            refine .inl (.inr ?_)
            show (browser, some session) ∈ t.inFlight
            rw [hbrowser, ← h]
            exact List.mem_of_getElem? hreply
          · rw [Function.update_of_ne hbrowser] at h
            exact .inl (.inl h)
        · exact .inl (.inr (List.mem_of_mem_eraseIdx h))
  · rw [Spec.step] at hstep
    split_ifs at hstep
    cases hstep
    rcases h with h | h
    · exact .inl (.inl h)
    · exact .inl (.inr (List.mem_of_mem_eraseIdx h))

/-- Each session was begun by a login of its browser. -/
theorem begun_of_session {events : List (Event β)} {t : Spec β} {settings : Settings} {browser : β}
    {session : Session} (hrun : exec Spec.step (Spec.start settings now) events = some t)
    (hsession : session ∈ t.sessions browser) :
    ∃ before password after t₁, events = before ++ .login browser password :: after ∧
      exec Spec.step (Spec.start settings now) before = some t₁ ∧ t₁.Grants password ∧
      session = t₁.granted := by
  have hstart (begun : β × Session) : ¬ Has (Spec.start settings now) begun := by
    rintro (h | h) <;> cases h
  obtain ⟨before, e, after, t₁, hevents, hbefore, password, rfl, hgrants, hsession⟩ :=
    exec_provenance hstart (fun _ _ _ _ => has_of_step) hrun
      (show Has t (browser, session) from .inl hsession)
  exact ⟨before, password, after, t₁, hevents, hbefore, hgrants, hsession⟩

/-- **Who is shown a page has logged in**: with the password, under the present secret, and less than twelve
hours ago. -/
theorem login_of_shown (env : Env) (settings : Settings) (now : ℤ) (events : List (Event β)) (w : World β)
    (handlers : Router → String → Except Exn α) (browser : β) (page : Page)
    (answers : List (Except ApiError α)) (hnow : 0 ≤ now)
    (hrun : exec (step env) (start settings now) events = some w) (hseparated : Separated env w)
    (hshown : visit env w handlers browser page = .page answers) :
    ∃ before password after w₁, events = before ++ .login browser password :: after ∧
      exec (step env) (start settings now) before = some w₁ ∧
      w₁.settings.operatorPassword ≠ "" ∧ password = w₁.settings.operatorPassword ∧
      w₁.settings.sessionSecret = w.settings.sessionSecret ∧ w.now < w₁.now + sessionTtl := by
  have hstart := @refines_start β now env settings hnow
  obtain ⟨t, ht, hrefines⟩ := exists_of_exec_lockstep (lockstep env) hstart hrun
  rw [visit_of_refines hrefines hseparated] at hshown
  split_ifs at hshown with hauthenticated
  obtain ⟨session, hsession, hsecret, hlasts⟩ := hauthenticated
  obtain ⟨before, password, after, t₁, rfl, hbefore, hgrants, rfl⟩ := begun_of_session ht hsession
  have hrel := exec_lockstep (lockstep env) hstart before
  rw [hbefore] at hrel
  cases hw₁ : exec (step env) (start settings now) before with
  | none =>
      rw [hw₁] at hrel
      cases hrel
  | some w₁ =>
      rw [hw₁] at hrel
      cases hrel with
      | some hrefines₁ =>
          have hend := expiresAt_le (hrefines₁.now ▸ hrefines₁.since_epoch)
          refine ⟨before, password, after, w₁, rfl, hw₁, ?_, ?_, ?_, ?_⟩
          · exact hrefines₁.settings ▸ hgrants.2.1
          · exact hrefines₁.settings ▸ hgrants.2.2.1
          · rw [← hrefines₁.settings, ← hrefines.settings]
            exact hsecret
          · rw [← hrefines₁.now, ← hrefines.now]
            exact hlasts.trans_le hend

theorem visit_afterLogin :
    visit sampleEnv afterLogin (fun _ _ => Except.ok "data") () .overview = .page [.ok "data"] := by
  obtain ⟨t, ht, hvisit⟩ := exists_of_exec_lockstep (lockstep sampleEnv)
    (refines_start sampleEnv sampleSettings (by decide)) exec_loginAndWait
  have hgrants : (Spec.start sampleSettings 1700000000000000 : Spec Unit).Grants "maple" := by
    decide +kernel
  rw [loginAndWait, exec, Spec.step, if_pos hgrants] at ht
  cases ht
  rw [visit_of_refines hvisit separated_afterLogin, if_pos]
  · rfl
  · exact ⟨_, rfl, rfl, by decide +kernel⟩

theorem login_of_shown_afterLogin : ∃ before password after w₁,
    loginAndWait = before ++ .login () password :: after ∧
      exec (step sampleEnv) (start sampleSettings 1700000000000000) before = some w₁ ∧
      w₁.settings.operatorPassword ≠ "" ∧ password = w₁.settings.operatorPassword ∧
      w₁.settings.sessionSecret = afterLogin.settings.sessionSecret ∧
      afterLogin.now < w₁.now + sessionTtl :=
  login_of_shown sampleEnv sampleSettings 1700000000000000 loginAndWait afterLogin
    (fun _ _ => Except.ok "data") () .overview [.ok "data"] (by decide) exec_loginAndWait
    separated_afterLogin visit_afterLogin

end OperatorSession

end ReviewSignal
