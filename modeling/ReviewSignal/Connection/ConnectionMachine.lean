import ReviewSignal.Services.ConnectionEvents

/-!
# The connection as a machine of three states

What a user can rely on: Google was never connected; or it is connected since some time, with an access
token or none and a profile or none; or the connection has ended, by the user or because Google refused
the grant.

The code keeps a row of nine columns instead.  Of a connection that has ended it may keep tokens, their
expiry and the scopes, and of any connection an expiry without a token.

* `Link` — the machine, and what each event does to it;
* `Link.Of` — the states a row stands for.  It is a relation, since a row whose access token has no expiry
  is used as a row without one;
* **`replies_eq_link`** — over every run of the routes and the jobs, all replies of the code are those of the
  machine, and the row it ends with is in the state the machine ends in.  What a row keeps beyond its state
  is therefore never seen: no reply depends on it.

**How.**  For each function of the service, a call over the table returns what the machine does and leaves
its state (`Simulates`); `refines_serve` puts them together to one event, and the run is the forward
simulation of the library.

Events follow each other here.  Requests that overlap write single columns of the row, and no machine of
these states is behind them (`Disconnection`, `SelectedProfile`, `StaleRefresh`).
-/

namespace ReviewSignal

open GoogleConnectionService (source)

/-- A connection while it lasts. -/
structure LiveLink where
  refreshToken : String
  access : Option (String × Instant)
  profile : Option Profile
  since : Instant

/-- How a connection ends. -/
inductive LinkEnd where
  | disconnected
  | invalid
  deriving DecidableEq

def LinkEnd.status : LinkEnd → CredentialStatus
  | .disconnected => .disconnected
  | .invalid => .invalid

/-- The state of the connection. -/
inductive Link where
  | never
  | live (live : LiveLink)
  | ended (how : LinkEnd) (profile : Option Profile) (since : Instant)

namespace Link

/-! ## What the machine does

The routes and the jobs again, with the state in place of the row and plain tokens in place of ciphertexts. -/

/-- The guard of the routes. -/
def guard : Link → Except Exn Unit
  | live _ => .ok ()
  | _ => .error (googleNotConnectedError "Google is not connected; connect it before syncing.")

def status (lastSync : Option Instant) : Link → GoogleStatusPayload
  | never => ⟨false, .disconnected, none, none, none, lastSync⟩
  | live l => ⟨true, .connected, l.profile.map (·.accountId), l.profile.map (·.locationId), some l.since,
      lastSync⟩
  | ended how profile since => ⟨false, how.status, profile.map (·.accountId), profile.map (·.locationId),
      some since, lastSync⟩

/-- A new grant, whatever there was before. -/
def connect (grant : Grant) (now : Instant) : Link :=
  .live {
    refreshToken := grant.refreshToken
    access := grant.accessToken.bind fun token => grant.tokenExpiresAt.map (token, ·)
    profile := none
    since := now }

def select (profile : Profile) : Link → Link
  | live l => .live { l with profile := some profile }
  | link => link

def disconnect : Link → Link
  | never => .never
  | live l => .ended .disconnected l.profile l.since
  | ended _ profile since => .ended .disconnected profile since

/-- The answer to the refresh token. -/
def renew (now : Instant) (answer : TokenAnswer) (l : LiveLink) : Except Exn String × Link :=
  match GoogleToken.outcome answer with
  | .failed exc => (.error exc, .live l)
  | .refused =>
      (.error (sourceNotConnectedError
        "Google rejected the refresh token; the connection must be re-authorized."),
        .ended .invalid l.profile l.since)
  | .granted accessToken expiresIn =>
      (.ok accessToken, .live { l with access := some (accessToken, now + seconds expiresIn) })

/-- The access token of a connection, a new one if it is about to expire. -/
def resolve (now : Instant) (answer : TokenAnswer) (l : LiveLink) : Except Exn String × Link :=
  match l.access with
  | some (token, expiresAt) =>
      if now < expiresAt - GoogleToken.expirySkew then (.ok token, .live l) else renew now answer l
  | none => renew now answer l

def notConnected : Exn := sourceNotConnectedError "No connected credential for source 'google'."

def accessToken (now : Instant) (answer : TokenAnswer) : Link → Except Exn String × Link
  | live l => resolve now answer l
  | link => (.error notConnected, link)

/-- What a job runs with. -/
def client (now : Instant) (answer : TokenAnswer) : Link → Except Exn (String × Profile) × Link
  | live l =>
      match l.profile with
      | none =>
          (.error (sourceNotConnectedError
            "The Google connection has no account/location selected yet."), .live l)
      | some profile =>
          let (token, link) := resolve now answer l
          (token.map (·, profile), link)
  | link => (.error notConnected, link)

def complete (now : Instant) (answer : TokenAnswer) (link : Link) : Except Exn Unit × Link :=
  match GoogleConnectionService.exchange now answer with
  | .error exc => (.error exc, link)
  | .ok grant => (.ok (), connect grant now)

def selectLocation (profile : Profile) (link : Link) : Except Exn Unit × Link :=
  match link.guard with
  | .error exc => (.error exc, link)
  | .ok () => (.ok (), link.select profile)

def discover (now : Instant) (answer : TokenAnswer)
    (listing : String → Except Exn (List (String × String))) (link : Link) :
    Except Exn (List (String × String)) × Link :=
  match link.guard with
  | .error exc => (.error exc, link)
  | .ok () =>
      let (token, link) := link.accessToken now answer
      ((token >>= listing).mapError GoogleAnswers.translated, link)

/-- An event over the machine. -/
def serve (machine : Link × Database) (event : ConnectionEvent) : ConnectionReply × (Link × Database) :=
  let (link, db) := machine
  let lastSync := SystemRepository.latestStartedAt db.syncRuns
  match event with
  | .status => (.status (link.status lastSync), (link, db))
  | .complete now answer =>
      let (result, link) := link.complete now answer
      (.of (fun _ => .connected true) result, (link, db))
  | .discover now answer listing =>
      let (result, link) := link.discover now answer listing
      (.of .listed result, (link, db))
  | .selectLocation _ accountId locationId =>
      let (result, link) := link.selectLocation ⟨accountId, locationId⟩
      (.of (fun _ => .status (link.status lastSync)) result, (link, db))
  | .disconnect _ => (.connected false, (link.disconnect, db))
  | .enqueue => (.of (fun _ => .queued) link.guard, (link, db))
  | .ingest mode env =>
      let (client, link) := link.client env.resolvedAt env.tokenAnswer
      let (result, db) := Jobs.runClient env mode db client
      (.ended result, (link, db))

end Link

/-! ## The states a row stands for

Of a live row everything the code reads is that of the state; of an ended one the status, the profile and the
time of the connection. -/

variable [Cipher]

/-- The access token of a row, if its expiry is known. -/
def SourceCredential.access (row : SourceCredential) : Option (String × Instant) :=
  row.accessTokenEncrypted.bind fun token => row.tokenExpiresAt.map (decrypt token, ·)

/-- The row has the profile selected. -/
structure SourceCredential.Selects (row : SourceCredential) (profile : Option Profile) : Prop where
  accountId : row.accountId = profile.map (·.accountId)
  locationId : row.locationId = profile.map (·.locationId)

/-- The row, or that there is none, is in the state. -/
inductive Link.Of : Option SourceCredential → Link → Prop
  | never : Of none .never
  | live {row : SourceCredential} {l : LiveLink} (hstatus : row.status = .connected)
      (hrefresh : row.refreshTokenEncrypted = some (encrypt l.refreshToken)) (haccess : row.access = l.access)
      (hselects : row.Selects l.profile) (hsince : row.connectedAt = some l.since) : Of (some row) (.live l)
  | ended {row : SourceCredential} {how : LinkEnd} {profile : Option Profile} {since : Instant}
      (hstatus : row.status = how.status) (hselects : row.Selects profile)
      (hsince : row.connectedAt = some since) : Of (some row) (.ended how profile since)

namespace Link

/-- The stored credential is in the state. -/
def Holds (link : Link) (table : CredentialTable) : Prop := Of (table.lookup source) link

/-- A call over the table returns what the machine does, and leaves its state. -/
structure Simulates {α : Type} (code : Except Exn α × CredentialTable) (spec : Except Exn α × Link) :
    Prop where
  reply : code.1 = spec.1
  holds : spec.2.Holds code.2

variable {link : Link} {l : LiveLink} {table : CredentialTable} {row : SourceCredential} {now : Instant}
  {answer : TokenAnswer}

theorem holds_empty : never.Holds ∅ := .never

theorem holds_insert : link.Holds (table.insert source row) ↔ Of (some row) link := by
  rw [Holds, Finmap.lookup_insert]

/-- The row of a live connection. -/
theorem Holds.row_of_live (h : (live l).Holds table) :
    ∃ row, table.lookup source = some row ∧ Of (some row) (.live l) := by
  rw [Holds] at h
  cases hrow : table.lookup source with
  | none =>
      rw [hrow] at h
      cases h
  | some row => exact ⟨row, rfl, hrow ▸ h⟩

/-! ## Reads

The guard, the status and the loading of the credential look at the state only. -/

omit [Cipher] in
theorem LinkEnd_status_ne (how : LinkEnd) : how.status ≠ .connected := by
  cases how <;> simp [LinkEnd.status]

theorem Holds.guard (h : link.Holds table) : GoogleConnectionService.ensureConnected table = link.guard := by
  rw [Holds] at h
  rw [GoogleConnectionService.ensureConnected, CredentialRepository.get]
  generalize table.lookup source = stored at h
  cases h with
  | never => rfl
  | live hstatus => simp [Link.guard, hstatus]
  | @ended row how _ _ hstatus => simp [Link.guard, hstatus, LinkEnd_status_ne]

theorem Holds.status (h : link.Holds table) (db : Database) :
    GoogleConnectionService.status ⟨table, db⟩
      = link.status (SystemRepository.latestStartedAt db.syncRuns) := by
  rw [Holds] at h
  rw [GoogleConnectionService.status, CredentialRepository.get]
  generalize table.lookup source = stored at h
  cases h with
  | never => rfl
  | live hstatus _ _ hselects hsince =>
      simp [Link.status, hstatus, hselects.accountId, hselects.locationId, hsince]
  | ended hstatus hselects hsince =>
      simp [Link.status, hstatus, hselects.accountId, hselects.locationId, hsince, LinkEnd_status_ne]

/-- `load_credential` takes the row of a live connection and no other. -/
theorem Holds.loadCredential (h : link.Holds table) :
    (∃ l row, link = .live l ∧ GoogleToken.loadCredential source table = .ok row ∧
      table.lookup source = some row ∧ Of (some row) (.live l)) ∨
    ((∀ l, link ≠ .live l) ∧ GoogleToken.loadCredential source table = .error notConnected) := by
  cases link with
  | live l =>
      obtain ⟨row, hrow, hof⟩ := h.row_of_live
      refine .inl ⟨l, row, rfl, GoogleToken.loadCredential_eq_ok.mpr ⟨hrow, ?_⟩, hrow, hof⟩
      cases hof with
      | live hstatus => exact hstatus
  | never =>
      right
      rw [Holds] at h
      generalize hstored : table.lookup source = stored at h
      cases h with
      | never => exact ⟨by simp, by rw [GoogleToken.loadCredential, hstored]; rfl⟩
  | ended how profile since =>
      right
      rw [Holds] at h
      generalize hstored : table.lookup source = stored at h
      cases h with
      | ended hstatus =>
          have hne := LinkEnd_status_ne how
          refine ⟨by simp, ?_⟩
          simp only [GoogleToken.loadCredential, hstored, hstatus, ne_eq, hne, not_false_eq_true, if_true]
          rfl

/-! ## Writes

`complete`, `select_location` and `disconnect`, each on the row it meets. -/

theorem of_connect (grant : Grant) (now : Instant) : Of (some (grant.row now)) (connect grant now) := by
  refine .live rfl rfl ?_ ⟨rfl, rfl⟩ rfl
  cases htoken : grant.accessToken <;> cases hexpires : grant.tokenExpiresAt <;>
    simp [SourceCredential.access, Grant.row, htoken, hexpires]

theorem Holds.complete (h : link.Holds table) (now : Instant) (answer : TokenAnswer) :
    Simulates (GoogleConnectionService.complete now answer table) (link.complete now answer) := by
  rw [complete_eq, Link.complete]
  cases GoogleConnectionService.exchange now answer with
  | error exc => exact ⟨rfl, h⟩
  | ok grant => exact ⟨rfl, holds_insert.mpr (of_connect grant now)⟩

theorem Holds.selectLocation (h : link.Holds table) (now : Instant) (accountId locationId : String) :
    Simulates (GoogleConnectionService.selectLocation now accountId locationId table)
      (link.selectLocation ⟨accountId, locationId⟩) := by
  rw [GoogleConnectionService.selectLocation, Link.selectLocation, h.guard]
  cases link with
  | never | ended => exact ⟨rfl, h⟩
  | live l =>
      obtain ⟨row, hrow, hof⟩ := h.row_of_live
      refine ⟨rfl, ?_⟩
      simp only [Link.guard, CredentialRepository.setLocation, CredentialRepository.get, hrow]
      cases hof with
      | live hstatus hrefresh haccess hselects hsince =>
          exact holds_insert.mpr (.live hstatus hrefresh haccess ⟨rfl, rfl⟩ hsince)

theorem Holds.disconnect (h : link.Holds table) (now : Instant) :
    link.disconnect.Holds (GoogleConnectionService.disconnect now table) := by
  have hof := h
  rw [Holds] at hof
  rw [GoogleConnectionService.disconnect, CredentialRepository.markDisconnected, CredentialRepository.get]
  generalize hrow : table.lookup source = stored at hof
  cases hof with
  | never => exact h
  | live hstatus hrefresh haccess hselects hsince =>
      exact holds_insert.mpr (.ended rfl ⟨hselects.accountId, hselects.locationId⟩ hsince)
  | ended hstatus hselects hsince =>
      exact holds_insert.mpr (.ended rfl ⟨hselects.accountId, hselects.locationId⟩ hsince)

/-! ## The access token

A stored token, a refreshed one, or the end of the connection when Google refuses the grant. -/

theorem refresh_simulates (hrow : table.lookup source = some row) (hof : Of (some row) (.live l))
    (now : Instant) (answer : TokenAnswer) :
    Simulates (GoogleToken.refresh source now answer row table) (renew now answer l) := by
  rw [GoogleToken.refresh_eq, renew]
  cases hof with
  | live hstatus hrefresh haccess hselects hsince =>
      cases GoogleToken.outcome answer with
      | failed exc =>
          refine ⟨rfl, ?_⟩
          rw [Holds, hrow]
          exact .live hstatus hrefresh haccess hselects hsince
      | refused =>
          exact ⟨rfl, holds_insert.mpr (.ended rfl ⟨hselects.accountId, hselects.locationId⟩ hsince)⟩
      | granted accessToken expiresIn =>
          refine ⟨rfl, holds_insert.mpr
            (.live hstatus hrefresh ?_ ⟨hselects.accountId, hselects.locationId⟩ hsince)⟩
          simp [SourceCredential.access]

theorem resolve_simulates (hrow : table.lookup source = some row) (hof : Of (some row) (.live l))
    (now : Instant) (answer : TokenAnswer) :
    Simulates (GoogleToken.resolveAccessToken source now answer row table) (resolve now answer l) := by
  have hrefresh := refresh_simulates hrow hof now answer
  have hholds : (live l).Holds table := by rwa [Holds, hrow]
  have haccess : row.access = l.access := by
    cases hof with
    | live _ _ haccess => exact haccess
  rw [GoogleToken.resolveAccessToken, resolve, ← haccess, SourceCredential.access]
  cases row.accessTokenEncrypted with
  | none => exact hrefresh
  | some token =>
      rw [GoogleToken.stillValid]
      cases row.tokenExpiresAt with
      | none => exact hrefresh
      | some expiresAt =>
          by_cases hvalid : now < expiresAt - GoogleToken.expirySkew
          · simp only [Option.any_some, hvalid, decide_true, if_true, Option.bind_some, Option.map_some]
            exact ⟨rfl, hholds⟩
          · simp only [Option.any_some, hvalid, decide_false, Bool.false_eq_true, if_false,
              Option.bind_some, Option.map_some]
            exact hrefresh

theorem Holds.accessToken (h : link.Holds table) (now : Instant) (answer : TokenAnswer) :
    Simulates (GoogleConnectionService.accessToken now answer table) (link.accessToken now answer) := by
  rw [GoogleConnectionService.accessToken]
  rcases h.loadCredential with ⟨l, row, rfl, hload, hrow, hof⟩ | ⟨hdead, hload⟩
  · rw [hload]
    exact resolve_simulates hrow hof now answer
  · rw [hload]
    cases link with
    | live l => exact absurd rfl (hdead l)
    | never | ended => exact ⟨rfl, h⟩

theorem Holds.client (h : link.Holds table) (now : Instant) (answer : TokenAnswer) :
    Simulates (Jobs.client now answer table) (link.client now answer) := by
  have hsource : source = "google" := rfl
  rw [Jobs.client, ← hsource]
  rcases h.loadCredential with ⟨l, row, rfl, hload, hrow, hof⟩ | ⟨hdead, hload⟩
  · have hselects : row.Selects l.profile := by
      cases hof with
      | live _ _ _ hselects => exact hselects
    rw [hload, Link.client]
    cases hprofile : l.profile with
    | none => simpa [hselects.accountId, hprofile] using Simulates.mk rfl h
    | some profile =>
        have hresolve := resolve_simulates hrow hof now answer
        simp only [hselects.accountId, hselects.locationId, hprofile, Option.map_some]
        rcases hcode : GoogleToken.resolveAccessToken source now answer row table with ⟨token, after⟩
        rw [hcode] at hresolve
        obtain ⟨rfl, hafter⟩ := hresolve
        cases (resolve now answer l).1 <;> exact ⟨rfl, hafter⟩
  · rw [hload]
    cases link with
    | live l => exact absurd rfl (hdead l)
    | never | ended => exact ⟨rfl, h⟩

theorem Holds.discover (h : link.Holds table) (now : Instant) (answer : TokenAnswer)
    (listing : String → Except Exn (List (String × String))) :
    Simulates (GoogleConnectionService.discover now answer listing table)
      (link.discover now answer listing) := by
  rw [GoogleConnectionService.discover, Link.discover, h.guard]
  cases link.guard with
  | error exc => exact ⟨rfl, h⟩
  | ok =>
      have htoken := h.accessToken now answer
      exact ⟨by simp only [htoken.reply], htoken.holds⟩

/-! ## Runs

One event, and by induction the run. -/

/-- The store is in the state of the machine, and has its reviews and sync runs. -/
structure Represents (store : Store) (machine : Link × Database) : Prop where
  link : machine.1.Holds store.credentials
  db : store.db = machine.2

theorem represents_unconnected (db : Database) : Represents (.unconnected db) (.never, db) :=
  ⟨holds_empty, rfl⟩

/-- **One event** is replied to as the machine does, and leaves its state. -/
theorem refines_serve : Mealy.Refines ConnectionEvent.serve serve Represents := by
  rintro ⟨credentials, db⟩ ⟨link, _⟩ e ⟨h, rfl⟩
  cases e with
  | status => exact ⟨congrArg _ (h.status db), h, rfl⟩
  | complete now answer =>
      have hcomplete := h.complete now answer
      exact ⟨congrArg (ConnectionReply.of _) hcomplete.reply, hcomplete.holds, rfl⟩
  | discover now answer listing =>
      have hdiscover := h.discover now answer listing
      exact ⟨congrArg (ConnectionReply.of _) hdiscover.reply, hdiscover.holds, rfl⟩
  | selectLocation now accountId locationId =>
      have hselect := h.selectLocation now accountId locationId
      refine ⟨?_, hselect.holds, rfl⟩
      simp only [ConnectionEvent.serve, serve, hselect.reply, hselect.holds.status]
  | disconnect now => exact ⟨rfl, h.disconnect now, rfl⟩
  | enqueue => exact ⟨congrArg (ConnectionReply.of _) h.guard, h, rfl⟩
  | ingest mode env =>
      have hclient := h.client env.resolvedAt env.tokenAnswer
      simp only [ConnectionEvent.serve, serve, Jobs.ingestJob_eq, hclient.reply]
      exact ⟨trivial, hclient.holds, rfl⟩

end Link

/-- **The connection is a machine of three states.**  Over every run of the routes and the jobs, from no
connection and any reviews, every reply of the code is that of the machine, and the row it ends with is in the
state the machine ends in. -/
theorem replies_eq_link (db : Database) (events : List ConnectionEvent) :
    Mealy.replies ConnectionEvent.serve (.unconnected db) events
        = Mealy.replies Link.serve (.never, db) events ∧
      Link.Represents (Mealy.after ConnectionEvent.serve (.unconnected db) events)
        (Mealy.after Link.serve (.never, db) events) :=
  have hstart := Link.represents_unconnected db
  ⟨Mealy.replies_eq Link.refines_serve hstart events, Mealy.after_related Link.refines_serve hstart events⟩

end ReviewSignal
