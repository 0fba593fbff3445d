import ReviewSignal.Api.GoogleOAuth
import ReviewSignal.Foundations.Transition
import Mathlib.Data.List.Perm.Basic
import Mathlib.Logic.Function.Basic

/-!
# The state binds a connection to its browser

Browsers, the API and the consent screen exchange messages that take time, get lost or are repeated, and
another site can make a browser send any callback whose state it knows: not one issued to that browser.

* `World`, `step` — the cookies, what is under way, and what can happen;
* `Inv` — what holds of it in every run;
* `connected_bound` — every step that changes the credentials handles a callback that the browser's own
  consent screen led to, within ten minutes, and adds it to the connections;
* `state_used_once` — once the answer to a connection has come, its state is good for no later request.

**Why it holds.**  A callback is handled only with the cookie of its state, and a browser gets the cookie of a
state with the response that leads it to the consent screen (`Sound`).  Another site can repeat a callback in
any browser, but it cannot make a browser keep a cookie that was issued to another one.

**What is left out.**  The system has the two routes of the flow and nothing else that writes the row:
selecting a location, disconnecting and refreshing a token are not in it.  A state is random: it was neither
issued nor sent by anybody before (the guard of `connect`).
-/

namespace ReviewSignal

namespace StateBinding

open GoogleOAuth

/-- The cookie of a state. -/
structure StateCookie where
  state : String
  expires : ℤ
  deriving DecidableEq

/-- A response with an effect: to the consent screen with the state as a cookie, or the connection made, for
which the cookie is deleted. -/
inductive Reply
  | redirect (url state : String)
  | connected (state : String)
  deriving DecidableEq

variable {β : Type}

/-- A browser at the consent screen, and since when. -/
structure AtConsent (β : Type) where
  browser : β
  url : String
  since : ℤ

/-- A callback a browser can send, and whether the consent screen led to it. -/
structure Callback (β : Type) where
  browser : β
  code : String
  state : String
  consented : Bool

/-- A callback that was sent, with the cookie that went with it. -/
structure Request (β : Type) extends Callback β where
  cookie : Option String
  sentAt : ℤ

/-- The clock, the cookies, the responses under way, the browsers at the consent screen, the callbacks there
are, those under way, the credentials; and of the past the states that were issued, the callbacks that made
a connection, and those whose answer came. -/
structure World (β : Type) where
  now : ℤ
  jar : β → Option StateCookie
  inFlight : List (β × Reply)
  atConsent : List (AtConsent β)
  callbacks : List (Callback β)
  requests : List (Request β)
  credentials : CredentialTable
  issued : List (β × String)
  connections : List (Request β)
  answered : List (β × String)

/-- What happens. -/
inductive Event (β : Type)
  | elapse (microseconds : ℕ)
  | connect (browser : β) (state : String)
  | consent (i : ℕ) (code : String)
  | forge (browser : β) (code state : String)
  | send (i : ℕ)
  | handle (i : ℕ) (answer : TokenAnswer)
  | arrive (i : ℕ)
  | lose (i : ℕ)

/-- The cookie a browser sends. -/
def present (w : World β) (browser : β) : Option String :=
  ((w.jar browser).filter (w.now < ·.expires)).map (·.state)

/-- What a response does where it arrives. -/
def received [DecidableEq β] (w : World β) (browser : β) : Reply → World β
  | .redirect url state => { w with
      jar := Function.update w.jar browser (some ⟨state, w.now + stateTtl⟩)
      atConsent := w.atConsent ++ [⟨browser, url, w.now⟩] }
  | .connected state => { w with
      jar := Function.update w.jar browser none
      answered := w.answered ++ [(browser, state)] }

section Runs

variable [Cipher]

/-- A step of the system. -/
def step [DecidableEq β] (settings : OAuthSettings) (w : World β) : Event β → Option (World β)
  | .elapse microseconds => some { w with now := w.now + microseconds }
  | .connect browser state =>
      if state ∈ w.issued.map (·.2) ∨ state ∈ w.callbacks.map (·.state) then none
      else match authorizationUrl settings state with
        | .error _ => some w
        | .ok url => some { w with
            inFlight := w.inFlight ++ [(browser, .redirect url state)]
            issued := w.issued ++ [(browser, state)] }
  | .consent i code => do
      let screen ← w.atConsent[i]?
      let state ← stateOf screen.url
      return { w with callbacks := w.callbacks ++ [⟨screen.browser, code, state, true⟩] }
  | .forge browser code state =>
      if (browser, state) ∈ w.issued then none
      else some { w with callbacks := w.callbacks ++ [⟨browser, code, state, false⟩] }
  | .send i => do
      let callback ← w.callbacks[i]?
      return { w with requests := w.requests ++ [⟨callback, present w callback.browser, w.now⟩] }
  | .handle i answer => do
      let request ← w.requests[i]?
      let requests := w.requests.eraseIdx i
      match googleCallback w.now answer request.state request.cookie w.credentials with
        | (.ok _, credentials) => return { w with
            requests := requests
            credentials := credentials
            inFlight := w.inFlight ++ [(request.browser, .connected request.state)]
            connections := w.connections ++ [request] }
        | (.error _, credentials) => return { w with requests := requests, credentials := credentials }
  | .arrive i => do
      let (browser, reply) ← w.inFlight[i]?
      return received { w with inFlight := w.inFlight.eraseIdx i } browser reply
  | .lose i => if i < w.inFlight.length then some { w with inFlight := w.inFlight.eraseIdx i } else none

/-- Before anything has happened. -/
def start (now : ℤ) (credentials : CredentialTable) : World β :=
  ⟨now, fun _ => none, [], [], [], [], credentials, [], [], []⟩

/-! ## What holds in every run

Of the cookies and of what is under way: a state belongs to the browser it was issued to, and is not older
than the cookie that holds it. -/

/-- The browser has been at the consent screen with the state. -/
def Landed (atConsent : List (AtConsent β)) (browser : β) (state : String) : Prop :=
  ∃ screen ∈ atConsent, screen.browser = browser ∧ stateOf screen.url = some state

/-- The states on the way to their browsers. -/
def redirected (inFlight : List (β × Reply)) : List (β × String) :=
  inFlight.filterMap fun response => match response.2 with
    | .redirect _ state => some (response.1, state)
    | .connected _ => none

/-- A request that was sent with a cookie was sent while the cookie was kept. -/
structure Sound (callbacks : List (Callback β)) (atConsent : List (AtConsent β)) (request : Request β) :
    Prop where
  callback : request.toCallback ∈ callbacks
  cookie : ∀ state ∈ request.cookie, ∃ screen ∈ atConsent, screen.browser = request.browser ∧
    stateOf screen.url = some state ∧ screen.since ≤ request.sentAt ∧
    request.sentAt < screen.since + stateTtl

/-- A cookie is of a state the browser has been to the consent screen with; a state comes to its browser
once; what another site sends has no state of the browser's; once the answer to a connection has come, the
browser does not keep its state. -/
structure Inv (w : World β) : Prop where
  jar : ∀ browser, ∀ cookie ∈ w.jar browser, ∃ screen ∈ w.atConsent, screen.browser = browser ∧
    stateOf screen.url = some cookie.state ∧ screen.since ≤ w.now ∧ cookie.expires = screen.since + stateTtl
  landed : ∀ browser state, Landed w.atConsent browser state → (browser, state) ∈ w.issued
  redirects : ∀ browser url state, (browser, Reply.redirect url state) ∈ w.inFlight →
    stateOf url = some state ∧ (browser, state) ∈ w.issued ∧ ¬ Landed w.atConsent browser state
  distinct : (redirected w.inFlight).Nodup
  forged : ∀ callback ∈ w.callbacks, callback.consented = false →
    (callback.browser, callback.state) ∉ w.issued
  requests : ∀ request ∈ w.requests, Sound w.callbacks w.atConsent request
  connections : ∀ request ∈ w.connections,
    Sound w.callbacks w.atConsent request ∧ request.cookie = some request.state
  replies : ∀ browser state, (browser, Reply.connected state) ∈ w.inFlight →
    Landed w.atConsent browser state
  answered : ∀ browser state, (browser, state) ∈ w.answered →
    Landed w.atConsent browser state ∧ ∀ cookie ∈ w.jar browser, cookie.state ≠ state

variable {settings : OAuthSettings} {w w' : World β} {e : Event β} {browser : β} {url state : String}
  {request : Request β} {callbacks callbacks' : List (Callback β)}
  {atConsent atConsent' : List (AtConsent β)} {inFlight inFlight' : List (β × Reply)}

omit [Cipher] in
theorem inv_start (now : ℤ) (credentials : CredentialTable) : Inv (start now credentials : World β) where
  jar _ _ h := by cases h
  landed _ _ h := by
    obtain ⟨_, h, -⟩ := h
    cases h
  redirects _ _ _ h := by cases h
  distinct := .nil
  forged _ h := by cases h
  requests _ h := by cases h
  connections _ h := by cases h
  replies _ _ h := by cases h
  answered _ _ h := by cases h

omit [Cipher] in
theorem Landed.mono (h : Landed atConsent browser state) (hsubset : atConsent ⊆ atConsent') :
    Landed atConsent' browser state := by
  obtain ⟨screen, hscreen, hrest⟩ := h
  exact ⟨screen, hsubset hscreen, hrest⟩

omit [Cipher] in
theorem Sound.mono (h : Sound callbacks atConsent request) (hcallbacks : callbacks ⊆ callbacks')
    (hsubset : atConsent ⊆ atConsent') : Sound callbacks' atConsent' request where
  callback := hcallbacks h.callback
  cookie state hstate := by
    obtain ⟨screen, hscreen, hrest⟩ := h.cookie state hstate
    exact ⟨screen, hsubset hscreen, hrest⟩

omit [Cipher] in
theorem Sound.landed (h : Sound callbacks atConsent request) (hcookie : request.cookie = some state) :
    Landed atConsent request.browser state := by
  obtain ⟨screen, hscreen, hbrowser, hurl, -⟩ := h.cookie state hcookie
  exact ⟨screen, hscreen, hbrowser, hurl⟩

omit [Cipher] in
theorem mem_redirected :
    (browser, state) ∈ redirected inFlight ↔ ∃ url, (browser, Reply.redirect url state) ∈ inFlight := by
  rw [redirected, List.mem_filterMap]
  constructor
  · rintro ⟨⟨browser', url | state'⟩, hmem, hsome⟩
    · cases hsome
      exact ⟨_, hmem⟩
    · cases hsome
  · rintro ⟨url, hmem⟩
    exact ⟨_, hmem, rfl⟩

omit [Cipher] in
/-- The cookie a request goes with is one that is kept. -/
theorem sound_of_sent (h : Inv w) {callback : Callback β} (hcallback : callback ∈ w.callbacks) :
    Sound w.callbacks w.atConsent ⟨callback, present w callback.browser, w.now⟩ where
  callback := hcallback
  cookie state hstate := by
    obtain ⟨cookie, hcookie, rfl⟩ := Option.map_eq_some_iff.mp hstate
    obtain ⟨hjar, hkept⟩ := Option.filter_eq_some_iff.mp hcookie
    obtain ⟨screen, hscreen, hbrowser, hurl, hsince, hexpires⟩ := h.jar _ cookie hjar
    refine ⟨screen, hscreen, hbrowser, hurl, hsince, ?_⟩
    rw [← hexpires]
    exact of_decide_eq_true hkept

/-! ## That each effect keeps it

One lemma for each thing that can happen to the browsers, whichever event it comes from. -/

omit [Cipher] in
theorem inv_of_issued (h : Inv w) (hissued : state ∉ w.issued.map (·.2))
    (hcallbacks : state ∉ w.callbacks.map (·.state)) (hurl : stateOf url = some state) :
    Inv { w with
      inFlight := w.inFlight ++ [(browser, .redirect url state)]
      issued := w.issued ++ [(browser, state)] } := by
  have hfresh : (browser, state) ∉ w.issued := fun hmem => hissued (List.mem_map.mpr ⟨_, hmem, rfl⟩)
  refine ⟨h.jar, fun browser' state' hlanded => List.mem_append_left _ (h.landed _ _ hlanded), ?_, ?_, ?_,
    h.requests, h.connections, ?_, h.answered⟩
  · intro browser' url' state' hmem
    rcases List.mem_append.mp hmem with hmem | hmem
    · obtain ⟨hurl', hmem', hlanded⟩ := h.redirects _ _ _ hmem
      exact ⟨hurl', List.mem_append_left _ hmem', hlanded⟩
    · cases List.mem_singleton.mp hmem
      exact ⟨hurl, by simp, fun hlanded => hfresh (h.landed _ _ hlanded)⟩
  · show (redirected (w.inFlight ++ [(browser, .redirect url state)])).Nodup
    have hnot : (browser, state) ∉ redirected w.inFlight := by
      rw [mem_redirected]
      rintro ⟨url', hmem⟩
      exact hfresh (h.redirects _ _ _ hmem).2.1
    rw [redirected, List.filterMap_append]
    exact List.nodup_append_comm.mp (List.nodup_cons.mpr ⟨hnot, h.distinct⟩)
  · intro callback hcallback hforged hmem
    rcases List.mem_append.mp hmem with hmem | hmem
    · exact h.forged callback hcallback hforged hmem
    · refine hcallbacks (List.mem_map.mpr ⟨callback, hcallback, ?_⟩)
      exact congrArg Prod.snd (List.mem_singleton.mp hmem)
  · intro browser' state' hmem
    rcases List.mem_append.mp hmem with hmem | hmem
    · exact h.replies _ _ hmem
    · cases List.mem_singleton.mp hmem

omit [Cipher] in
theorem inv_of_callback (h : Inv w) (callback : Callback β)
    (hforged : callback.consented = false → (callback.browser, callback.state) ∉ w.issued) :
    Inv { w with callbacks := w.callbacks ++ [callback] } := by
  have hsubset : w.callbacks ⊆ w.callbacks ++ [callback] := fun c hc => List.mem_append_left _ hc
  refine ⟨h.jar, h.landed, h.redirects, h.distinct, ?_,
    fun request hrequest => (h.requests request hrequest).mono hsubset (List.Subset.refl _),
    fun request hrequest => ⟨(h.connections request hrequest).1.mono hsubset (List.Subset.refl _),
      (h.connections request hrequest).2⟩, h.replies, h.answered⟩
  intro callback' hcallback' hforged'
  rcases List.mem_append.mp hcallback' with hcallback' | hcallback'
  · exact h.forged callback' hcallback' hforged'
  · rw [List.mem_singleton.mp hcallback'] at hforged' ⊢
    exact hforged hforged'

omit [Cipher] in
theorem inv_of_connected (h : Inv w) (hrequest : request ∈ w.requests)
    {requests : List (Request β)} (hrequests : requests ⊆ w.requests) (credentials : CredentialTable)
    (hcookie : request.cookie = some request.state) :
    Inv { w with
      requests := requests
      credentials := credentials
      inFlight := w.inFlight ++ [(request.browser, .connected request.state)]
      connections := w.connections ++ [request] } := by
  have hsound := h.requests request hrequest
  refine ⟨h.jar, h.landed, ?_, ?_, h.forged,
    fun request' hrequest' => h.requests request' (hrequests hrequest'), ?_, ?_, h.answered⟩
  · intro browser' url' state' hmem
    rcases List.mem_append.mp hmem with hmem | hmem
    · exact h.redirects _ _ _ hmem
    · cases List.mem_singleton.mp hmem
  · show (redirected (w.inFlight ++ [(request.browser, .connected request.state)])).Nodup
    have hsame : redirected (w.inFlight ++ [(request.browser, .connected request.state)])
        = redirected w.inFlight := by
      simp [redirected]
    rw [hsame]
    exact h.distinct
  · intro request' hrequest'
    rcases List.mem_append.mp hrequest' with hrequest' | hrequest'
    · exact h.connections request' hrequest'
    · rw [List.mem_singleton.mp hrequest']
      exact ⟨hsound, hcookie⟩
  · intro browser' state' hmem
    rcases List.mem_append.mp hmem with hmem | hmem
    · exact h.replies _ _ hmem
    · cases List.mem_singleton.mp hmem
      exact hsound.landed hcookie

omit [Cipher] in
/-- What is under way may get less. -/
theorem inv_of_inFlight (h : Inv w) (hsubset : inFlight ⊆ w.inFlight)
    (hdistinct : (redirected inFlight).Nodup) : Inv { w with inFlight := inFlight } :=
  ⟨h.jar, h.landed, fun _ _ _ hmem => h.redirects _ _ _ (hsubset hmem), hdistinct, h.forged, h.requests,
    h.connections, fun _ _ hmem => h.replies _ _ (hsubset hmem), h.answered⟩

omit [Cipher] in
/-- A state arrives with its browser. -/
theorem inv_of_redirect [DecidableEq β] (h : Inv w) (hurl : stateOf url = some state)
    (hissued : (browser, state) ∈ w.issued) (hnot : ¬ Landed w.atConsent browser state)
    (hnext : (browser, state) ∉ redirected w.inFlight) :
    Inv (received w browser (.redirect url state)) := by
  have hsubset : w.atConsent ⊆ w.atConsent ++ [⟨browser, url, w.now⟩] := fun _ hmem =>
    List.mem_append_left _ hmem
  have hnew {browser' : β} {state' : String}
      (hlanded : Landed (w.atConsent ++ [⟨browser, url, w.now⟩]) browser' state') :
      Landed w.atConsent browser' state' ∨ (browser', state') = (browser, state) := by
    obtain ⟨screen, hscreen, hbrowser, hstate⟩ := hlanded
    rcases List.mem_append.mp hscreen with hscreen | hscreen
    · exact .inl ⟨screen, hscreen, hbrowser, hstate⟩
    · rw [List.mem_singleton.mp hscreen] at hbrowser hstate
      rw [hurl] at hstate
      cases hstate
      exact .inr (by rw [← hbrowser])
  refine ⟨?_, ?_, ?_, h.distinct, h.forged,
    fun request hrequest => (h.requests request hrequest).mono (List.Subset.refl _) hsubset,
    fun request hrequest => ⟨(h.connections request hrequest).1.mono (List.Subset.refl _) hsubset,
      (h.connections request hrequest).2⟩, fun _ _ hmem => (h.replies _ _ hmem).mono hsubset, ?_⟩
  · intro browser' cookie hcookie
    by_cases heq : browser' = browser
    · subst heq
      have hcookie : Function.update w.jar browser' (some ⟨state, w.now + stateTtl⟩) browser' = some cookie :=
        hcookie
      rw [Function.update_self] at hcookie
      cases hcookie
      exact ⟨⟨browser', url, w.now⟩, by simp [received], rfl, hurl, le_refl _, rfl⟩
    · have hcookie : Function.update w.jar browser (some ⟨state, w.now + stateTtl⟩) browser' = some cookie :=
        hcookie
      rw [Function.update_of_ne heq] at hcookie
      obtain ⟨screen, hscreen, hrest⟩ := h.jar browser' cookie hcookie
      exact ⟨screen, hsubset hscreen, hrest⟩
  · intro browser' state' hlanded
    rcases hnew hlanded with hlanded | heq
    · exact h.landed _ _ hlanded
    · rw [heq]
      exact hissued
  · intro browser' url' state' hmem
    obtain ⟨hurl', hissued', hlanded'⟩ := h.redirects _ _ _ hmem
    refine ⟨hurl', hissued', fun hlanded => ?_⟩
    rcases hnew hlanded with hlanded | heq
    · exact hlanded' hlanded
    · rw [Prod.mk.injEq] at heq
      rw [heq.1, heq.2] at hmem
      exact hnext (mem_redirected.mpr ⟨_, hmem⟩)
  · intro browser' state' hmem
    obtain ⟨hlanded, hcookies⟩ := h.answered _ _ hmem
    refine ⟨hlanded.mono hsubset, fun cookie hcookie => ?_⟩
    by_cases heq : browser' = browser
    · subst heq
      have hcookie : Function.update w.jar browser' (some ⟨state, w.now + stateTtl⟩) browser' = some cookie :=
        hcookie
      rw [Function.update_self] at hcookie
      cases hcookie
      rintro rfl
      exact hnot hlanded
    · have hcookie : Function.update w.jar browser (some ⟨state, w.now + stateTtl⟩) browser' = some cookie :=
        hcookie
      rw [Function.update_of_ne heq] at hcookie
      exact hcookies cookie hcookie

omit [Cipher] in
/-- The answer to a connection arrives, and the cookie goes. -/
theorem inv_of_answer [DecidableEq β] (h : Inv w) (hlanded : Landed w.atConsent browser state) :
    Inv (received w browser (.connected state)) := by
  have hjar (browser' : β) (cookie : StateCookie)
      (hcookie : cookie ∈ Function.update w.jar browser none browser') :
      browser' ≠ browser ∧ cookie ∈ w.jar browser' := by
    by_cases heq : browser' = browser
    · subst heq
      rw [Function.update_self] at hcookie
      cases hcookie
    · rw [Function.update_of_ne heq] at hcookie
      exact ⟨heq, hcookie⟩
  refine ⟨fun browser' cookie hcookie => h.jar browser' cookie (hjar _ _ hcookie).2, h.landed, h.redirects,
    h.distinct, h.forged, h.requests, h.connections, h.replies, ?_⟩
  intro browser' state' hmem
  rcases List.mem_append.mp hmem with hmem | hmem
  · obtain ⟨hlanded', hcookies⟩ := h.answered _ _ hmem
    exact ⟨hlanded', fun cookie hcookie => hcookies cookie (hjar _ _ hcookie).2⟩
  · cases List.mem_singleton.mp hmem
    exact ⟨hlanded, fun cookie hcookie => absurd rfl (hjar _ _ hcookie).1⟩

/-! ## What a step can do

The events as effects, with their guards. -/

/-- What happens to the world. -/
inductive Move [DecidableEq β] (w : World β) : World β → Prop
  | kept : Move w w
  | elapsed (microseconds : ℕ) : Move w { w with now := w.now + microseconds }
  | issued (browser : β) (url state : String) (hissued : state ∉ w.issued.map (·.2))
      (hcallbacks : state ∉ w.callbacks.map (·.state)) (hurl : stateOf url = some state) :
      Move w { w with
        inFlight := w.inFlight ++ [(browser, .redirect url state)]
        issued := w.issued ++ [(browser, state)] }
  | consented (screen : AtConsent β) (code state : String) (hscreen : screen ∈ w.atConsent)
      (hstate : stateOf screen.url = some state) :
      Move w { w with callbacks := w.callbacks ++ [⟨screen.browser, code, state, true⟩] }
  | forged (browser : β) (code state : String) (hforeign : (browser, state) ∉ w.issued) :
      Move w { w with callbacks := w.callbacks ++ [⟨browser, code, state, false⟩] }
  | sent (callback : Callback β) (hcallback : callback ∈ w.callbacks) :
      Move w
        { w with requests := w.requests ++ [⟨callback, present w callback.browser, w.now⟩] }
  | connected (request : Request β) (requests : List (Request β)) (credentials : CredentialTable)
      (hrequest : request ∈ w.requests) (hrequests : requests ⊆ w.requests)
      (hcookie : request.cookie = some request.state) (answer : TokenAnswer)
      (hcredentials : credentials
        = (googleCallback w.now answer request.state request.cookie w.credentials).2) :
      Move w { w with
        requests := requests
        credentials := credentials
        inFlight := w.inFlight ++ [(request.browser, .connected request.state)]
        connections := w.connections ++ [request] }
  | refused (requests : List (Request β)) (hrequests : requests ⊆ w.requests) :
      Move w { w with requests := requests }
  | arrived (browser : β) (reply : Reply) (inFlight : List (β × Reply))
      (hperm : w.inFlight.Perm ((browser, reply) :: inFlight)) :
      Move w (received { w with inFlight := inFlight } browser reply)
  | lost (inFlight : List (β × Reply)) (hsublist : inFlight.Sublist w.inFlight) :
      Move w { w with inFlight := inFlight }

variable [DecidableEq β]

theorem move_of_step (h : step settings w e = some w') : Move w w' := by
  rcases e with microseconds | ⟨browser, state⟩ | ⟨i, code⟩ | ⟨browser, code, state⟩ | i | ⟨i, answer⟩ | i | i
  · cases h
    exact .elapsed microseconds
  · rw [step] at h
    split_ifs at h with hseen
    rw [not_or] at hseen
    cases hurl : authorizationUrl settings state with
    | error exc =>
        rw [hurl] at h
        cases h
        exact .kept
    | ok url =>
        rw [hurl] at h
        cases h
        exact .issued browser url state hseen.1 hseen.2 (stateOf_authorizationUrl hurl)
  · obtain ⟨screen, hscreen, h⟩ := Option.bind_eq_some_iff.mp h
    obtain ⟨state, hstate, h⟩ := Option.bind_eq_some_iff.mp h
    cases h
    exact .consented screen code state (List.mem_of_getElem? hscreen) hstate
  · rw [step] at h
    split_ifs at h with hforeign
    cases h
    exact .forged browser code state hforeign
  · obtain ⟨callback, hcallback, h⟩ := Option.bind_eq_some_iff.mp h
    cases h
    exact .sent callback (List.mem_of_getElem? hcallback)
  · obtain ⟨request, hrequest, h⟩ := Option.bind_eq_some_iff.mp h
    have hrequests : w.requests.eraseIdx i ⊆ w.requests := (List.eraseIdx_sublist _ _).subset
    rcases hcallback : googleCallback w.now answer request.state request.cookie w.credentials with
      ⟨exc | _, credentials⟩
    · simp only [hcallback] at h
      cases h
      rw [table_of_googleCallback hcallback]
      exact .refused _ hrequests
    · simp only [hcallback] at h
      cases h
      exact .connected request _ credentials (List.mem_of_getElem? hrequest) hrequests
        (cookie_of_googleCallback hcallback) answer (congrArg Prod.snd hcallback).symm
  · obtain ⟨⟨browser, reply⟩, hreply, h⟩ := Option.bind_eq_some_iff.mp h
    cases h
    obtain ⟨hi, hget⟩ := List.getElem?_eq_some_iff.mp hreply
    refine .arrived browser reply _ ?_
    rw [← hget]
    exact (List.getElem_cons_eraseIdx_perm hi).symm
  · rw [step] at h
    split_ifs at h
    cases h
    exact .lost _ (List.eraseIdx_sublist _ _)

/-! ## Every run

A callback whose cookie is its state was led to by the consent screen. -/

theorem inv_of_move (h : Inv w) (hmove : Move w w') : Inv w' := by
  cases hmove with
  | kept => exact h
  | elapsed microseconds =>
      refine ⟨fun browser cookie hcookie => ?_, h.landed, h.redirects, h.distinct, h.forged, h.requests,
        h.connections, h.replies, h.answered⟩
      obtain ⟨screen, hscreen, hbrowser, hurl, hsince, hexpires⟩ := h.jar browser cookie hcookie
      exact ⟨screen, hscreen, hbrowser, hurl, by simp only; omega, hexpires⟩
  | issued browser url state hissued hcallbacks hurl => exact inv_of_issued h hissued hcallbacks hurl
  | consented screen code state hscreen hstate =>
      exact inv_of_callback h _ fun hconsented => by cases hconsented
  | forged browser code state hforeign => exact inv_of_callback h _ fun _ => hforeign
  | sent callback hcallback =>
      refine ⟨h.jar, h.landed, h.redirects, h.distinct, h.forged, fun request hrequest => ?_, h.connections,
        h.replies, h.answered⟩
      rcases List.mem_append.mp hrequest with hrequest | hrequest
      · exact h.requests request hrequest
      · rw [List.mem_singleton.mp hrequest]
        exact sound_of_sent h hcallback
  | connected request requests credentials hrequest hrequests hcookie =>
      exact inv_of_connected h hrequest hrequests credentials hcookie
  | refused requests hrequests =>
      exact ⟨h.jar, h.landed, h.redirects, h.distinct, h.forged,
        fun request hrequest => h.requests request (hrequests hrequest), h.connections, h.replies, h.answered⟩
  | arrived browser reply inFlight hperm =>
      have hmem : (browser, reply) ∈ w.inFlight := hperm.mem_iff.mpr List.mem_cons_self
      have hsubset : inFlight ⊆ w.inFlight := fun response hresponse =>
        hperm.mem_iff.mpr (List.mem_cons_of_mem _ hresponse)
      have hdistinct : (redirected ((browser, reply) :: inFlight)).Nodup :=
        ((hperm.filterMap _).nodup_iff).mp h.distinct
      cases reply with
      | redirect url state =>
          obtain ⟨hnext, hrest⟩ := List.nodup_cons.mp hdistinct
          obtain ⟨hurl, hissued, hnot⟩ := h.redirects _ _ _ hmem
          exact inv_of_redirect (inv_of_inFlight h hsubset hrest) hurl hissued hnot hnext
      | connected state =>
          exact inv_of_answer (inv_of_inFlight h hsubset hdistinct) (h.replies _ _ hmem)
  | lost inFlight hsublist =>
      exact inv_of_inFlight h hsublist.subset ((hsublist.filterMap _).nodup h.distinct)

theorem inv_step (h : Inv w) (hstep : step settings w e = some w') : Inv w' :=
  inv_of_move h (move_of_step hstep)

/-- A callback the consent screen itself led to, of the browser its state was issued to, sent within ten
minutes of the browser's coming there with the state. -/
structure Bound (w : World β) (request : Request β) : Prop where
  consented : request.consented = true
  callback : request.toCallback ∈ w.callbacks
  issued : (request.browser, request.state) ∈ w.issued
  screen : ∃ screen ∈ w.atConsent, screen.browser = request.browser ∧
    stateOf screen.url = some request.state ∧ screen.since ≤ request.sentAt ∧
    request.sentAt < screen.since + stateTtl

/-- A step leaves the credentials and the connections, or it handles a bound callback: that is the new
connection, and what the route makes of the credentials is stored. -/
def Accounted (w w' : World β) : Prop :=
  (w'.credentials = w.credentials ∧ w'.connections = w.connections) ∨
  ∃ request ∈ w.requests, ∃ answer, Bound w request ∧ w'.connections = w.connections ++ [request] ∧
    w'.credentials = (googleCallback w.now answer request.state request.cookie w.credentials).2

omit [Cipher] in
omit [DecidableEq β] in
/-- A request with the cookie of its own state is bound. -/
theorem bound_of_sound (h : Inv w) (hsound : Sound w.callbacks w.atConsent request)
    (hcookie : request.cookie = some request.state) : Bound w request := by
  have hissued : (request.browser, request.state) ∈ w.issued := h.landed _ _ (hsound.landed hcookie)
  refine ⟨?_, hsound.callback, hissued, hsound.cookie _ hcookie⟩
  by_contra hforged
  exact h.forged _ hsound.callback (Bool.eq_false_iff.mpr hforged) hissued

theorem accounted_of_move (h : Inv w) (hmove : Move w w') : Accounted w w' := by
  cases hmove with
  | connected request requests credentials hrequest hrequests hcookie answer hcredentials =>
      have hbound := bound_of_sound h (h.requests request hrequest) hcookie
      exact .inr ⟨request, hrequest, answer, hbound, rfl, hcredentials⟩
  | arrived browser reply => cases reply <;> exact .inl ⟨rfl, rfl⟩
  | _ => exact .inl ⟨rfl, rfl⟩

/-- **Only the browser's own consent connects.**  At every step of a run the credentials stay what they are,
or a callback is handled that the consent screen led to, of the browser its state was issued to, sent within
ten minutes of the browser's coming there with the state; and these callbacks are the connections. -/
theorem connected_bound (settings : OAuthSettings) (now : ℤ) (credentials : CredentialTable)
    (events : List (Event β)) (w : World β)
    (hrun : exec (step settings) (start now credentials) events = some w) :
    Along (step settings) (fun w₁ e => ∀ w₂, step settings w₁ e = some w₂ → Accounted w₁ w₂)
      (start now credentials) events ∧
    ∀ request ∈ w.connections, Bound w request := by
  constructor
  · refine Along.of_invariant (c := fun _ _ => True) (p := Inv) (fun _ _ _ h _ => inv_step h) ?_
      (inv_start now credentials) (.trivial _ _) hrun
    exact fun w₁ e _ h _ _ w₂ hstep => accounted_of_move h (move_of_step hstep)
  · intro request hrequest
    have hinv : Inv w := exec_invariant (fun _ _ _ => inv_step) (inv_start now credentials) hrun
    obtain ⟨hsound, hcookie⟩ := hinv.connections request hrequest
    exact bound_of_sound hinv hsound hcookie

end Runs

section SampleRun

open scoped PlainCipher

/-- A browser connects, and another site makes a second one send the same callback. -/
def sampleEvents : List (Event Bool) :=
  [.connect true "s", .arrive 0, .elapse 60000000, .consent 0 "code", .forge false "code" "s", .send 0,
    .send 1, .send 0, .handle 0 (.response 200 "" (.ok { refreshToken := some "grant" })), .arrive 0,
    .handle 0 (.response 200 "" (.ok { refreshToken := some "other" })),
    .handle 0 (.response 400 "invalid_grant" (.ok {}))]

def sampleSettings : OAuthSettings := ⟨"client", "https://reviews.example/api/v1/google/callback"⟩

def sampleUrl : String :=
  authorizationEndpoint ++ "?"
    ++ FormUrlEncoded.serialize FormUrlEncoded.quotePlus (authorizationParams sampleSettings "s")

theorem authorizationUrl_sampleSettings : authorizationUrl sampleSettings "s" = .ok sampleUrl :=
  if_neg (by decide)

/-- After the consent. -/
def sampleConsented : World Bool where
  now := 1700000060000000
  jar := Function.update (fun _ => none) true (some ⟨"s", 1700000600000000⟩)
  inFlight := []
  atConsent := [⟨true, sampleUrl, 1700000000000000⟩]
  callbacks := [⟨true, "code", "s", true⟩]
  requests := []
  credentials := ∅
  issued := [(true, "s")]
  connections := []
  answered := []

theorem exec_sampleConsented :
    exec (step sampleSettings) (start 1700000000000000 ∅) (sampleEvents.take 4) = some sampleConsented := by
  have hconnect : step sampleSettings (start 1700000000000000 ∅) (.connect true "s") =
      some ⟨1700000000000000, fun _ => none, [(true, .redirect sampleUrl "s")], [], [], [], ∅,
        [(true, "s")], [], []⟩ := by
    rw [step, if_neg (by decide), authorizationUrl_sampleSettings]
    rfl
  have hconsent (w : World Bool) (screen : AtConsent Bool) (hscreen : w.atConsent[0]? = some screen)
      (hstate : stateOf screen.url = some "s") : step sampleSettings w (.consent 0 "code") =
        some { w with callbacks := w.callbacks ++ [⟨screen.browser, "code", "s", true⟩] } :=
    Option.bind_eq_some_iff.mpr ⟨screen, hscreen, Option.bind_eq_some_iff.mpr ⟨"s", hstate, rfl⟩⟩
  exact exec_cons_eq_some.mpr ⟨_, hconnect, exec_cons_eq_some.mpr ⟨_, rfl, exec_cons_eq_some.mpr
    ⟨_, rfl, exec_cons_eq_some.mpr ⟨_, hconsent _ _ rfl
      (stateOf_authorizationUrl authorizationUrl_sampleSettings), rfl⟩⟩⟩⟩

theorem answered_sampleConsented :
    (exec (step sampleSettings) sampleConsented ((sampleEvents.drop 4).take 6)).map (fun w =>
      decide ((true, "s") ∈ w.answered)) = some true := by
  decide +kernel

theorem connected_sampleConsented :
    (exec (step sampleSettings) sampleConsented (sampleEvents.drop 4)).map (fun w =>
      w.connections.any fun request => request.browser = true ∧ request.state = "s") = some true := by
  decide +kernel

/-- The run, up to the answer and on. -/
theorem exec_sampleEvents : ∃ w w' : World Bool,
    exec (step sampleSettings) (start 1700000000000000 ∅) (sampleEvents.take 10) = some w ∧
      exec (step sampleSettings) w (sampleEvents.drop 10) = some w' ∧ (true, "s") ∈ w.answered ∧
      ∃ request ∈ w'.connections, request.browser = true ∧ request.state = "s" := by
  obtain ⟨w, hw, hanswered⟩ := Option.map_eq_some_iff.mp answered_sampleConsented
  obtain ⟨w', hw', hconnected⟩ := Option.map_eq_some_iff.mp connected_sampleConsented
  obtain ⟨request, hrequest, hsame⟩ := List.any_eq_true.mp hconnected
  have hsplit : sampleEvents.drop 4 = (sampleEvents.drop 4).take 6 ++ sampleEvents.drop 10 := rfl
  rw [hsplit, exec_append, hw] at hw'
  refine ⟨w, w', ?_, hw', of_decide_eq_true hanswered, request, hrequest, of_decide_eq_true hsame⟩
  have hsplit' : sampleEvents.take 10 = sampleEvents.take 4 ++ (sampleEvents.drop 4).take 6 := rfl
  rw [hsplit', exec_append, exec_sampleConsented]
  exact hw

theorem connected_bound_sampleEvents : ∃ w : World Bool,
    exec (step sampleSettings) (start 1700000000000000 ∅) sampleEvents = some w ∧
      ∃ request ∈ w.connections, request.browser = true ∧ request.state = "s" ∧ Bound w request := by
  obtain ⟨w, w', hbefore, hafter, -, request, hrequest, hbrowser, hstate⟩ := exec_sampleEvents
  have hrun : exec (step sampleSettings) (start 1700000000000000 ∅) sampleEvents = some w' := by
    rw [← List.take_append_drop 10 sampleEvents, exec_append, hbefore]
    exact hafter
  have hbound := (connected_bound sampleSettings 1700000000000000 ∅ sampleEvents w' hrun).2
  exact ⟨w', hrun, request, hrequest, hbrowser, hstate, hbound request hrequest⟩

end SampleRun

/-! ## One connection for a state

The answer to a connection takes the cookie away, and no other response brings it back. -/

section Used

variable [Cipher] [DecidableEq β] {w w' : World β} {browser : β} {state : String}

/-- After the answer to a connection, no further request goes with its state. -/
structure Used (browser : β) (state : String) (old : World β) (w : World β) : Prop where
  inv : Inv w
  answered : (browser, state) ∈ w.answered
  requests : ∀ request ∈ w.requests, request.browser = browser → request.cookie = some state →
    request ∈ old.requests
  connections : ∀ request ∈ w.connections, request.browser = browser → request.state = state →
    request ∈ old.connections ∨ request ∈ old.requests

theorem used_of_move {old : World β} (h : Used browser state old w) (hmove : Move w w') :
    Used browser state old w' := by
  have hinv := inv_of_move h.inv hmove
  cases hmove with
  | kept => exact h
  | elapsed => exact ⟨hinv, h.answered, h.requests, h.connections⟩
  | issued => exact ⟨hinv, h.answered, h.requests, h.connections⟩
  | consented => exact ⟨hinv, h.answered, h.requests, h.connections⟩
  | forged => exact ⟨hinv, h.answered, h.requests, h.connections⟩
  | sent callback hcallback =>
      refine ⟨hinv, h.answered, fun request hrequest hbrowser hcookie => ?_, h.connections⟩
      rcases List.mem_append.mp hrequest with hrequest | hrequest
      · exact h.requests request hrequest hbrowser hcookie
      · -- A browser that has the answer does not keep the state.
        rw [List.mem_singleton.mp hrequest] at hbrowser hcookie
        obtain ⟨cookie, hkept, hstate⟩ := Option.map_eq_some_iff.mp hcookie
        rw [← hbrowser] at h
        exact absurd hstate ((h.inv.answered _ _ h.answered).2 cookie (Option.filter_eq_some_iff.mp hkept).1)
  | connected request requests credentials hrequest hrequests hcookie =>
      refine ⟨hinv, h.answered, fun request' hrequest' => h.requests request' (hrequests hrequest'), ?_⟩
      intro request' hrequest' hbrowser hstate
      rcases List.mem_append.mp hrequest' with hrequest' | hrequest'
      · exact h.connections request' hrequest' hbrowser hstate
      · rw [List.mem_singleton.mp hrequest'] at hbrowser hstate ⊢
        exact .inr (h.requests request hrequest hbrowser (hstate ▸ hcookie))
  | refused requests hrequests =>
      exact ⟨hinv, h.answered, fun request hrequest => h.requests request (hrequests hrequest), h.connections⟩
  | arrived browser reply =>
      cases reply with
      | redirect => exact ⟨hinv, h.answered, h.requests, h.connections⟩
      | connected => exact ⟨hinv, List.mem_append_left _ h.answered, h.requests, h.connections⟩
  | lost => exact ⟨hinv, h.answered, h.requests, h.connections⟩

/-- **A state is good for one connection.**  Once the answer to a connection has come to the browser, what
connects with its state was connected before or under way then. -/
theorem state_used_once (settings : OAuthSettings) (now : ℤ) (credentials : CredentialTable)
    (before after : List (Event β)) (w w' : World β)
    (hbefore : exec (step settings) (start now credentials) before = some w)
    (hafter : exec (step settings) w after = some w') (browser : β) (state : String)
    (hanswered : (browser, state) ∈ w.answered) (request : Request β) (hrequest : request ∈ w'.connections)
    (hbrowser : request.browser = browser) (hstate : request.state = state) :
    request ∈ w.connections ∨ request ∈ w.requests := by
  have hinv : Inv w := exec_invariant (fun _ _ _ => inv_step) (inv_start now credentials) hbefore
  have hstart : Used browser state w w :=
    ⟨hinv, hanswered, fun _ hmem _ _ => hmem, fun _ hmem _ _ => .inl hmem⟩
  have hend : Used browser state w w' :=
    exec_invariant (fun _ _ _ h hstep => used_of_move h (move_of_step hstep)) hstart hafter
  exact hend.connections request hrequest hbrowser hstate

end Used

open scoped PlainCipher

theorem state_used_once_sampleEvents : ∃ (w w' : World Bool) (request : Request Bool),
    exec (step sampleSettings) w (sampleEvents.drop 10) = some w' ∧ request ∈ w'.connections ∧
      (request ∈ w.connections ∨ request ∈ w.requests) := by
  obtain ⟨w, w', hbefore, hafter, hanswered, request, hrequest, hbrowser, hstate⟩ := exec_sampleEvents
  exact ⟨w, w', request, hafter, hrequest, state_used_once sampleSettings 1700000000000000 ∅
    (sampleEvents.take 10) (sampleEvents.drop 10) w w' hbefore hafter true "s" hanswered request hrequest
    hbrowser hstate⟩

end StateBinding

end ReviewSignal
