import ReviewSignal.Services.ConnectionRequests

/-!
# The two ids of a profile

`set_location` assigns an account id and a location id together, but the flush sends only the ids
that are not the loaded ones.  When one of the two was already stored and another request replaces it
before the flush, the row is left with one id of each request.

* `SelectionIntact` — the condition on a write, on the row it meets: an id that was loaded already stored,
  and so is not sent, is still there, or what is there in its place goes with the other id.
* **`one_selection_iff`** — over runs of any requests and resolutions: every stored pair of ids is empty or
  that of one `select_location` if and only if every step of the run is intact.
* `profiles_mixed` — three selections, the last of which is committed between the load of the second and its
  UPDATE.

Whether Google has a profile under a mixed pair is not asked: it is one that nobody selected, and the jobs
that follow are run on it.

Which pairs were asked for is read off the requests of the run (`OneSelection`).  `complete` takes part as
well: it clears the ids, or leaves both of them where it loaded neither.
-/

namespace ReviewSignal

section AnyCipher

variable {ι : Type} [Cipher]

/-- The two ids of one `select_location`. -/
def OneSelection (request : ι → ConnectionRequest) (accountId locationId : Option String) : Prop :=
  ∃ i a l, request i = .selectLocation a l ∧ accountId = some a ∧ locationId = some l

/-- No profile is selected, or that of one `select_location`. -/
def SourceCredential.ProfileOf (request : ι → ConnectionRequest) (row : SourceCredential) : Prop :=
  (row.accountId = none ∧ row.locationId = none) ∨
    OneSelection request row.accountId row.locationId

/-- The same of the stored row, if there is one. -/
def ConnectionStore.ProfileOf (request : ι → ConnectionRequest) (store : ConnectionStore) : Prop :=
  ∀ row, store.row = some row → row.ProfileOf request

/-- **The condition on a write**, on the row it meets.  A `select_location` that loaded one of its ids
already stored, and so sends only the other one, finds it still stored, or finds an id in its place
that some `select_location` was given together with the one that is sent. -/
def SelectionIntact (request : ι → ConnectionRequest) (phase : ConnectionPhase)
    (step : ConnectionStep) (row : SourceCredential) : Prop :=
  match phase, step with
  | .locating accountId locationId loaded, .write _ =>
      (loaded.accountId = some accountId → loaded.locationId ≠ some locationId →
        row.accountId = some accountId ∨ OneSelection request row.accountId (some locationId)) ∧
      (loaded.locationId = some locationId → loaded.accountId ≠ some accountId →
        row.locationId = some locationId ∨ OneSelection request (some accountId) row.locationId)
  | _, _ => True

/-- The condition on a step. -/
def StepIntact [DecidableEq ι] (request : ι → ConnectionRequest)
    (s : Pool ι ConnectionStore ConnectionPhase) (e : ι × ConnectionStep) : Prop :=
  ∀ row, s.shared.row = some row → SelectionIntact request (s.proc e.1) e.2 row

/-- The step leaves no mixture of profiles. -/
def LeavesOneSelection [DecidableEq ι] (request : ι → ConnectionRequest)
    (s : Pool ι ConnectionStore ConnectionPhase) (e : ι × ConnectionStep) : Prop :=
  ∀ s', Pool.step connectionStep s e = some s' → s'.shared.ProfileOf request

/-! ## The writes

What an UPDATE of some columns does to the pair of ids. -/

section Writes

variable {request : ι → ConnectionRequest} {i : ι} {accountId locationId : String} {now : Instant}
  {row loaded after : SourceCredential} {store : ConnectionStore} {writes : CredentialWrites}

omit [Cipher] in
theorem profileOf_put : (store.put row).ProfileOf request ↔ row.ProfileOf request := by
  simp [ConnectionStore.ProfileOf]

omit [Cipher] in
/-- `select_location` writes what it did not load. -/
theorem profileOf_setLocation (hcall : request i = .selectLocation accountId locationId)
    (hrow : row.ProfileOf request)
    (h : (CredentialStatements.setLocation accountId locationId now loaded).Leaves row after) :
    after.ProfileOf request ↔
      SelectionIntact request (.locating accountId locationId loaded) (.write now) row := by
  have haccount : after.accountId = written loaded.accountId (some accountId) row.accountId :=
    h.accountId
  have hlocation : after.locationId = written loaded.locationId (some locationId) row.locationId :=
    h.locationId
  have hown : OneSelection request (some accountId) (some locationId) :=
    ⟨i, accountId, locationId, hcall, rfl, rfl⟩
  rw [SourceCredential.ProfileOf, haccount, hlocation]
  by_cases hsameAccount : loaded.accountId = some accountId <;>
    by_cases hsameLocation : loaded.locationId = some locationId
  · -- nothing but `updated_at` is sent
    simp only [hsameAccount, hsameLocation, written_same]
    exact iff_of_true hrow ⟨fun _ h => absurd hsameLocation h, fun _ h => absurd hsameAccount h⟩
  · simp only [hsameAccount, written_same, written_of_ne hsameLocation, SelectionIntact,
      reduceCtorEq, and_false, false_or, ne_eq, hsameLocation, not_false_eq_true, forall_const,
      false_implies, and_true]
    constructor
    · exact .inr
    · rintro (hstored | hother)
      · rwa [hstored]
      · exact hother
  · simp only [hsameLocation, written_same, written_of_ne hsameAccount, SelectionIntact,
      reduceCtorEq, false_and, false_or, ne_eq, hsameAccount, not_false_eq_true, forall_const,
      false_implies, true_and]
    constructor
    · exact .inr
    · rintro (hstored | hother)
      · rwa [hstored]
      · exact hother
  · simp only [written_of_ne hsameAccount, written_of_ne hsameLocation]
    exact iff_of_true (.inr hown) ⟨fun h => absurd h hsameAccount, fun h => absurd h hsameLocation⟩

/-- `complete` clears both ids or, where it loaded neither, leaves both. -/
theorem profileOf_upsert (grant : Grant) (hloaded : loaded.ProfileOf request)
    (hrow : row.ProfileOf request)
    (h : (CredentialStatements.upsert grant now loaded).Leaves row after) :
    after.ProfileOf request := by
  have haccount : after.accountId = written loaded.accountId none row.accountId := h.accountId
  have hlocation : after.locationId = written loaded.locationId none row.locationId := h.locationId
  rw [SourceCredential.ProfileOf, haccount, hlocation]
  rcases hloaded with ⟨hnoAccount, hnoLocation⟩ | ⟨_, _, _, -, hsomeAccount, hsomeLocation⟩
  · rw [hnoAccount, hnoLocation, written_same, written_same]
    exact hrow
  · left
    rw [hsomeAccount, hsomeLocation]
    exact ⟨written_of_ne (Option.some_ne_none _) _, written_of_ne (Option.some_ne_none _) _⟩

omit [Cipher] in
/-- The other UPDATEs set neither id. -/
theorem ConnectionStore.ProfileOf.update (hstore : store.ProfileOf request)
    (haccount : writes.accountId = none) (hlocation : writes.locationId = none) :
    ((store.update writes).getD store).ProfileOf request := by
  refine ConnectionStore.forall_row_update hstore fun row after hrow hleaves => ?_
  rw [SourceCredential.ProfileOf, hleaves.accountId, hleaves.locationId, haccount, hlocation]
  exact hrow

end Writes

/-! ## Steps

The ids a request is going to send are those it was asked to select. -/

/-- What a request has loaded is in order, and it selects what it was asked to. -/
def ConnectionPhase.SelectsOf (request : ι → ConnectionRequest) (i : ι) :
    ConnectionPhase → Prop
  | .storing _ (some loaded) => loaded.ProfileOf request
  | .selecting accountId locationId | .guarded accountId locationId
  | .locating accountId locationId _ => request i = .selectLocation accountId locationId
  | _ => True

section Steps

variable {request : ι → ConnectionRequest} {i : ι} {store store' : ConnectionStore}
  {phase phase' : ConnectionPhase} {step : ConnectionStep} {row : SourceCredential}

theorem ConnectionMove.selectsOf (h : ConnectionMove store phase step store' phase')
    (hstore : store.ProfileOf request) (hphase : phase.SelectsOf request i) :
    phase'.SelectsOf request i := by
  cases h with
  | loadGrant grant now =>
      cases hrow : store.row with
      | none => trivial
      | some row => exact hstore row hrow
  | guard | loadLocation => exact hphase
  | exchange | store | locate | loadCleared | clear | loadToken | invalidate | renew | ended => trivial

omit [Cipher] in
theorem selectionIntact_of_quiet (hquiet : step.Quiet) : SelectionIntact request phase step row := by
  unfold SelectionIntact
  split
  · exact absurd rfl (hquiet.1 _)
  · trivial

/-- **One move on a stored row** mixes no profiles exactly when the row is intact. -/
theorem ConnectionMove.profileOf_iff (h : ConnectionMove store phase step store' phase')
    (hstore : store.ProfileOf request) (hphase : phase.SelectsOf request i)
    (hrow : store.row = some row) :
    store'.ProfileOf request ↔ SelectionIntact request phase step row := by
  cases h with
  | exchange | loadGrant | guard | loadLocation | loadCleared | loadToken =>
      exact iff_of_true hstore trivial
  | ended hquiet => exact iff_of_true hstore (selectionIntact_of_quiet hquiet)
  | store grant now loaded =>
      refine iff_of_true ?_ trivial
      cases loaded with
      | none => simpa [ConnectionStore.storeGrant, hrow] using hstore
      | some loaded =>
          obtain ⟨after, hgrant, hleaves⟩ := ConnectionStore.storeGrant_leaves grant now loaded hrow
          rw [hgrant, Option.getD_some]
          exact profileOf_put.mpr (profileOf_upsert grant hphase (hstore row hrow) hleaves)
  | locate accountId locationId now loaded =>
      obtain ⟨after, hupdate, hleaves⟩ :=
        ConnectionStore.setLocation_leaves accountId locationId now loaded hrow
      rw [hupdate, Option.getD_some, profileOf_put]
      exact profileOf_setLocation hphase (hstore row hrow) hleaves
  | clear | invalidate | renew => exact iff_of_true (hstore.update rfl rfl) trivial

/-- The first `complete` selects no profile. -/
theorem ConnectionMove.profileOf_of_none (h : ConnectionMove store phase step store' phase')
    (hrow : store.row = none) : store'.ProfileOf request := by
  rcases h.of_none hrow with rfl | ⟨grant, now, rfl⟩
  · simp [ConnectionStore.ProfileOf, hrow]
  · have hgrant : (grant.row now).ProfileOf request := .inl ⟨rfl, rfl⟩
    exact profileOf_put.mpr hgrant

/-- The steps the condition is about are always possible. -/
theorem selectionIntact_of_disabled (h : connectionStep i step store phase = none) :
    SelectionIntact request phase step row := by
  unfold SelectionIntact
  split
  · cases h
  · trivial

end Steps

/-! ## Runs

The invariant before and after every intact step; a step that is not mixes two profiles. -/

/-- Before and after every intact step. -/
def SelectionInv (request : ι → ConnectionRequest) (s : Pool ι ConnectionStore ConnectionPhase) :
    Prop :=
  s.Holds (ConnectionStore.ProfileOf request) fun i _ => ConnectionPhase.SelectsOf request i

omit [Cipher] in
theorem selectionInv_start (request : ι → ConnectionRequest) :
    SelectionInv request (connectionStart request) := by
  refine ⟨?_, fun i => ?_⟩
  · rintro row hrow
    cases hrow
  · show (request i).start.SelectsOf request i
    cases hrequest : request i with
    | selectLocation accountId locationId => exact hrequest
    | complete | disconnect | resolve => trivial

variable [DecidableEq ι] {request : ι → ConnectionRequest}
  {s s' : Pool ι ConnectionStore ConnectionPhase} {e : ι × ConnectionStep}

theorem leavesOneSelection_iff (hs : SelectionInv request s) :
    LeavesOneSelection request s e ↔ StepIntact request s e := by
  refine leaves_iff_of_move (fun row store' phase' hrow hmove => ?_)
    (fun store' phase' hrow hmove => hmove.profileOf_of_none hrow)
    fun row hact => selectionIntact_of_disabled hact
  exact hmove.profileOf_iff hs.shared (hs.proc e.1) hrow

theorem selectionInv_step (hs : SelectionInv request s) (hc : StepIntact request s e)
    (h : Pool.step connectionStep s e = some s') : SelectionInv request s' := by
  have hshared := (leavesOneSelection_iff hs).mpr hc s' h
  obtain ⟨i, step⟩ := e
  obtain ⟨store', phase', hact, rfl⟩ := Pool.step_eq_some.mp h
  have hself := (connectionStep_move hact).selectsOf hs.shared (hs.proc i)
  exact .step hshared hself fun j _ => hs.proc j

/-- **One profile at a time.**  In a run of any requests and resolutions, every stored pair of ids is
empty or that of one `select_location` if and only if every step of the run is intact. -/
theorem one_selection_iff (request : ι → ConnectionRequest) (events : List (ι × ConnectionStep)) :
    Along (Pool.step connectionStep) (LeavesOneSelection request) (connectionStart request) events ↔
      Along (Pool.step connectionStep) (StepIntact request) (connectionStart request) events :=
  Along.iff_of_invariant (fun _ _ => leavesOneSelection_iff) (fun _ _ _ => selectionInv_step)
    (selectionInv_start request)

end AnyCipher

/-! ## Two selections at once

The ids of the second and the third selection differ in both places, and the first one has the account of the
second. -/

open scoped PlainCipher

/-- A connection, a selection, and two more that run into each other. -/
def selectedMeanwhile : Fin 4 → ConnectionRequest
  | 0 => .complete
  | 1 => .selectLocation "accounts/1" "locations/1"
  | 2 => .selectLocation "accounts/1" "locations/2"
  | 3 => .selectLocation "accounts/3" "locations/3"

/-- The third selection is committed between the load of the second and its UPDATE, which sends the
location only. -/
theorem profiles_mixed : ∃ s,
    exec (Pool.step connectionStep) (connectionStart selectedMeanwhile)
      [(0, .exchange 0 (.response 200 "" (.ok { refreshToken := some "grant" }))), (0, .load 0),
        (0, .write 0), (1, .load 1), (1, .load 1), (1, .write 1), (2, .load 2), (2, .load 2),
        (3, .load 3), (3, .load 3), (3, .write 3), (2, .write 4)] = some s ∧
    ∃ row, s.shared.row = some row ∧ row.accountId = some "accounts/3" ∧
      row.locationId = some "locations/2" ∧ ¬ row.ProfileOf selectedMeanwhile := by
  refine ⟨_, rfl, _, rfl, rfl, rfl, ?_⟩
  rintro (⟨hnone, -⟩ | ⟨i, a, l, hrequest, haccount, hlocation⟩)
  · cases hnone
  · cases haccount
    cases hlocation
    have hnot : ∀ i, selectedMeanwhile i ≠ .selectLocation "accounts/3" "locations/2" := by decide
    exact hnot i hrequest

end ReviewSignal
