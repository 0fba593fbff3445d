import ReviewSignal.Core.Errors
import ReviewSignal.Core.SessionTokens
import Mathlib.Logic.Function.Basic

/-!
# The operator's session

The session between the browsers, the dashboard and the API: `login` and `logout` answer with a cookie that
the dashboard relays, the middleware looks whether there is one, the pages forward it, and the guarded
routers verify it.  Responses travel, and arrive in any order or not at all; the clock runs and the settings
change in between.

**The code:**
* `login`, `logout`, `serve` — the routes and the guard of the API, with the texts of their errors
* `middleware`, `apiGet`, `render` — what the dashboard makes of a cookie and of the answers to a page's calls

**The system:**
* `World`, `step` — the browsers' cookies and the responses under way, and what happens to them
* `visit` — what a browser is shown of a page

**The specification:**
* `Session`, `Spec` — what the cookies stand for: for each browser a secret and a time, or nothing

That the cookies do what they stand for is proved in `SessionRefinement`.  A call of a page is one that the
API answers: `apiGet` turns an exception of `fetch` into an error that is not `UNAUTHORIZED`, and a page then
shows that error whoever asks.  The handlers behind the guard are a parameter, and so are the MAC and the way
a cookie's value comes through the headers.
-/

namespace ReviewSignal

namespace OperatorSession

open Auth

/-- The settings that sessions depend on. -/
structure Settings where
  operatorPassword : String
  sessionSecret : String
  deriving DecidableEq

/-- The MAC, Unicode, and how the value of a cookie comes through the headers: a value of letters, digits,
minus signs and dots as it is. -/
structure Env where
  hmac : Hmac
  unicode : Python.Unicode
  transmit : String → String
  knowsAscii : unicode.KnowsAscii
  transmit_plain : ∀ value : String,
    (∀ c ∈ value.toList, c.isAlphanum = true ∨ c = '-' ∨ c = '.') → transmit value = value

/-! ## The API

The routes of the session, and the guard before the others. -/

/-- `text.encode()` -/
def encode (text : String) : List UInt8 := text.toList.flatMap String.utf8EncodeChar

/-- `password_matches` -/
def passwordMatches (supplied configured : String) : Bool :=
  if configured = "" then false else encode supplied = encode configured

/-- A cookie as a response sets it, for a number of seconds.  Its other attributes (the path, `HttpOnly`,
`SameSite` and the `Secure` flag of the production environment) are left out: they do not change what a
browser that has it sends to the dashboard. -/
structure SetCookie where
  value : String
  maxAge : ℤ
  deriving DecidableEq

/-- `SessionPayload` -/
structure SessionPayload where
  authenticated : Bool
  deriving DecidableEq

/-- `POST /auth/login` -/
def login (env : Env) (settings : Settings) (now : ℤ) (password : String) :
    Except Exn (SessionPayload × SetCookie) :=
  if 256 < password.length then
    .error ⟨"RequestValidationError", "password: String should have at most 256 characters"⟩
  else if ¬ passwordMatches password settings.operatorPassword then
    .error (unauthorizedError "Invalid credentials.")
  else do
    let token ← issueToken env.hmac settings.sessionSecret sessionTtl now
    return (⟨true⟩, ⟨token, 43200⟩)

/-- `POST /auth/logout` -/
def logout : SessionPayload × SetCookie := (⟨false⟩, ⟨"", 0⟩)

/-- The routers, in the order they are mounted. -/
inductive Router
  | systemPublic
  | auth
  | system
  | google
  | evaluation
  | reviews
  | overview
  | taxonomy
  | trends
  | insights
  | settings
  deriving DecidableEq, Repr

/-- `dependencies=GUARDED` -/
def Router.guarded : Router → Bool
  | systemPublic | auth => false
  | _ => true

variable {α β : Type}

/-- A route of a router, behind its guard. -/
def serve (env : Env) (settings : Settings) (now : ℤ) (handlers : Router → String → Except Exn α)
    (router : Router) (path : String) (cookie : Option String) : Except Exn α := do
  if router.guarded then requireSession env.hmac env.unicode settings.sessionSecret cookie now
  handlers router path

/-! ## The dashboard

What a page asks for, and what it makes of the answers. -/

/-- The pages that ask the API. -/
inductive Page
  | overview
  | reviews (query : String)
  | review (id : String)
  | taxonomy
  | trends (query : String)
  | insights
  | insight (id : String)
  | settings
  deriving DecidableEq, Repr

namespace Page

/-- Where a page is. -/
def pathname : Page → String
  | overview => "/overview"
  | reviews _ => "/reviews"
  | review id => "/reviews/" ++ id
  | taxonomy => "/taxonomy"
  | trends _ => "/trends"
  | insights => "/insights"
  | insight id => "/insights/" ++ id
  | settings => "/settings"

/-- What a page asks the API for. -/
def calls : Page → List (Router × String)
  | overview => [(.overview, "/overview")]
  | reviews query => [(.reviews, "/reviews?" ++ query)]
  | review id => [(.reviews, "/reviews/" ++ id)]
  | taxonomy => [(.taxonomy, "/taxonomy")]
  | trends query => [(.trends, "/trends/ratings"), (.trends, "/trends/summary"),
      (.trends, "/trends/categories" ++ query)]
  | insights => [(.insights, "/insights")]
  | insight id => [(.insights, "/insights/" ++ id)]
  | settings => [(.settings, "/settings")]

end Page

/-- `middleware` -/
def middleware (pathname : String) (cookie : Option String) : Option String :=
  if pathname = "/login" ∨ "/api/".toList.isPrefixOf pathname.toList then none
  else if cookie.isNone then some "/login" else none

/-- `apiGet`, of a call that is answered: an empty cookie is not forwarded.  When the API cannot be reached
the source catches the exception and returns an `INTERNAL_ERROR` of its own; that branch is not here. -/
def apiGet (env : Env) (settings : Settings) (now : ℤ) (handlers : Router → String → Except Exn α)
    (cookie : Option String) (call : Router × String) : Except ApiError α :=
  (respond 200 (serve env settings now handlers call.1 call.2 (cookie.filter (· ≠ "")))).body

/-- What a browser comes to see. -/
inductive Seen (α : Type)
  | redirect (target : String)
  | page (answers : List (Except ApiError α))

/-- A page sends to the login when one of its answers is `UNAUTHORIZED`. -/
def render (answers : List (Except ApiError α)) : Seen α :=
  if answers.any (fun answer => match answer with
    | .error err => err.code = .unauthorized
    | .ok _ => false) then .redirect "/login"
  else .page answers

/-! ## The browsers

Cookies that are kept for a time, and responses that arrive when they do. -/

/-- A cookie in a browser. -/
structure StoredCookie where
  value : String
  expires : ℤ
  deriving DecidableEq

/-- The settings, the clock, the cookies of the browsers, the responses under way, and the calls of
`issue_token` there were. -/
structure World (β : Type) where
  settings : Settings
  now : ℤ
  jar : β → Option StoredCookie
  inFlight : List (β × SetCookie)
  history : List IssueCall

/-- What happens. -/
inductive Event (β : Type)
  | elapse (microseconds : ℕ)
  | configure (settings : Settings)
  | login (browser : β) (password : String)
  | logout (browser : β)
  | arrive (i : ℕ)
  | lose (i : ℕ)

/-- A browser drops a cookie whose time is over, and keeps any other. -/
def stored (env : Env) (now : ℤ) (cookie : SetCookie) : Option StoredCookie :=
  if cookie.maxAge ≤ 0 then none
  else some ⟨env.transmit cookie.value, now + cookie.maxAge * 1000000⟩

/-- A step of the system. -/
def step [DecidableEq β] (env : Env) (w : World β) : Event β → Option (World β)
  | .elapse microseconds => some { w with now := w.now + microseconds }
  | .configure settings => some { w with settings := settings }
  | .login browser password =>
      match login env w.settings w.now password with
      | .ok (_, cookie) => some { w with
          inFlight := w.inFlight ++ [(browser, cookie)]
          history := w.history ++ [⟨w.settings.sessionSecret, sessionTtl, w.now⟩] }
      | .error _ => some w
  | .logout browser => some { w with inFlight := w.inFlight ++ [(browser, logout.2)] }
  | .arrive i =>
      match w.inFlight[i]? with
      | some (browser, cookie) => some { w with
          jar := Function.update w.jar browser (stored env w.now cookie)
          inFlight := w.inFlight.eraseIdx i }
      | none => none
  | .lose i => if i < w.inFlight.length then some { w with inFlight := w.inFlight.eraseIdx i } else none

/-- The system before anything has happened. -/
def start (settings : Settings) (now : ℤ) : World β := ⟨settings, now, fun _ => none, [], []⟩

/-- The cookie a browser sends. -/
def present (w : World β) (browser : β) : Option String :=
  ((w.jar browser).filter (w.now < ·.expires)).map (·.value)

/-- What a browser is shown of a page. -/
def visit (env : Env) (w : World β) (handlers : Router → String → Except Exn α) (browser : β)
    (page : Page) : Seen α :=
  match middleware page.pathname (present w browser) with
  | some target => .redirect target
  | none => render (page.calls.map (apiGet env w.settings w.now handlers (present w browser)))

/-! ## What it stands for

Sessions, with no token and no signature. -/

/-- A session: the secret it was begun under, and the second it ends. -/
structure Session where
  secret : String
  expires : ℤ
  deriving DecidableEq

/-- The sessions of the browsers, and those under way. -/
structure Spec (β : Type) where
  settings : Settings
  now : ℤ
  sessions : β → Option Session
  inFlight : List (β × Option Session)

namespace Spec

/-- A login is granted for the password, if there is one and it is not too long, while the clock shows a
date. -/
def Grants (t : Spec β) (password : String) : Prop :=
  password.length ≤ 256 ∧ t.settings.operatorPassword ≠ "" ∧ password = t.settings.operatorPassword ∧
    Python.Fits t.now sessionTtl

instance (t : Spec β) (password : String) : Decidable (t.Grants password) :=
  inferInstanceAs (Decidable (_ ∧ _ ∧ _ ∧ _))

/-- The session of a login now. -/
def granted (t : Spec β) : Session := ⟨t.settings.sessionSecret, expiresAt sessionTtl t.now⟩

/-- What happens to the sessions. -/
def step [DecidableEq β] (t : Spec β) : Event β → Option (Spec β)
  | .elapse microseconds => some { t with now := t.now + microseconds }
  | .configure settings => some { t with settings := settings }
  | .login browser password =>
      if t.Grants password then some { t with inFlight := t.inFlight ++ [(browser, some t.granted)] }
      else some t
  | .logout browser => some { t with inFlight := t.inFlight ++ [(browser, none)] }
  | .arrive i =>
      match t.inFlight[i]? with
      | some (browser, session) => some { t with
          sessions := Function.update t.sessions browser session
          inFlight := t.inFlight.eraseIdx i }
      | none => none
  | .lose i => if i < t.inFlight.length then some { t with inFlight := t.inFlight.eraseIdx i } else none

/-- No browser has a session. -/
def start (settings : Settings) (now : ℤ) : Spec β := ⟨settings, now, fun _ => none, []⟩

/-- The browser has a session under the present secret that has not ended. -/
def Authenticated (t : Spec β) (browser : β) : Prop :=
  ∃ session ∈ t.sessions browser, session.secret = t.settings.sessionSecret
    ∧ t.now < session.expires * 1000000

instance (t : Spec β) (browser : β) : Decidable (t.Authenticated browser) :=
  match h : t.sessions browser with
  | none => isFalse (by simp [Authenticated, h])
  | some session =>
      decidable_of_iff (session.secret = t.settings.sessionSecret ∧ t.now < session.expires * 1000000)
        (by simp [Authenticated, h])

end Spec

end OperatorSession

end ReviewSignal
