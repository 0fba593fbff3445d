import ReviewSignal.Integrations.GoogleProfile

/-!
# The profiles that can be selected

The settings page offers the ids that a listing has found, and sends one of them back to a route that takes
only those `RESOURCE_ID_PATTERN` matches.  `_resource_id` keeps more: a name with its prefix may go on with
any characters but a slash, and with any number of them.

* `discoverPages_eq_ok_iff` — what a listing returns: the entries of the pages of its walk (`Walk`), each
  request of which carries the token of the page before it.  A walk ends with a page without a token, or with
  the cap on the pages.
* **`allSelectable_iff`** — a listing finds only ids that the routes take exactly when no page of its walk
  names an entry outside the pattern (`NoStray`).
* `not_allSelectable` — an account whose name goes on with a query string.  The page offers it, and no route
  takes it.

Entries of another kind, those whose name has no prefix or has further segments, are skipped by
`_resource_id` and do not matter here.  The pattern is matched as pydantic's engine does, whose `$` is the end
of the text alone.
-/

namespace ReviewSignal

open GoogleReviewSourceAdapter (truthy)

/-! ## The schemas

`RESOURCE_ID_PATTERN` as a decidable predicate, and the two places that check it. -/

/-- `[A-Za-z0-9_-]` -/
def isResourceIdChar (c : Char) : Bool := c.isAlphanum || c = '_' || c = '-'

/-- `RESOURCE_ID_PATTERN`.  The `$` of pydantic's engine is the end of the text, and no place before it. -/
def MatchesResourceId (text : String) : Prop :=
  1 ≤ text.length ∧ text.length ≤ 128 ∧ text.toList.all isResourceIdChar

instance (text : String) : Decidable (MatchesResourceId text) := inferInstanceAs (Decidable (_ ∧ _))

/-- A text of the pattern. -/
abbrev ResourceId := { text : String // MatchesResourceId text }

/-- `Field(pattern=RESOURCE_ID_PATTERN)`, and the `account_id` of `google_locations`. -/
def ResourceId.validate (text : String) : Except Exn ResourceId :=
  if h : MatchesResourceId text then .ok ⟨text, h⟩
  else .error ⟨"RequestValidationError", "String should match pattern '^[A-Za-z0-9_-]\x7b1,128\x7d$'"⟩

/-- `GoogleLocationSelection` -/
structure GoogleLocationSelection where
  accountId : ResourceId
  locationId : ResourceId
  deriving DecidableEq

/-- The body of `POST /google/location`. -/
def GoogleLocationSelection.validate (accountId locationId : String) :
    Except Exn GoogleLocationSelection := do
  return ⟨← ResourceId.validate accountId, ← ResourceId.validate locationId⟩

theorem ResourceId.validate_eq_ok_iff {text : String} {id : ResourceId} :
    ResourceId.validate text = .ok id ↔ text = id.1 := by
  rw [ResourceId.validate]
  split_ifs with h
  · rw [Except.ok.injEq, Subtype.ext_iff]
  · simp only [false_iff]
    rintro rfl
    exact h id.2

/-! ## The walk over the pages

The pages as a relation between a request and the rest of the walk, so that what a listing returns can be
said without its loop. -/

/-- A request of a listing and the envelope it was answered with. -/
structure ListedPage where
  request : HttpRequest
  envelope : Json

/-- `envelope.get("nextPageToken")` -/
def ListedPage.next (page : ListedPage) : Json := page.envelope.getD "nextPageToken" .null

namespace Listing

/-- The pages a listing asks for, from one request on: until a page has no token, or the cap is hit. -/
inductive Walk (api : ProfileApi) (accessToken : String) (listing : Listing) :
    (left call : ℕ) → (pageToken : Option Json) → List ListedPage → Prop
  | capped {call : ℕ} {pageToken : Option Json} : Walk api accessToken listing 0 call pageToken []
  | last {left call : ℕ} {pageToken : Option Json} {page : ListedPage}
      (hrequest : page.request = listing.request api accessToken pageToken)
      (hget : listing.get api accessToken call pageToken = .ok page.envelope)
      (hlast : truthy page.next = false) :
      Walk api accessToken listing (left + 1) call pageToken [page]
  | more {left call : ℕ} {pageToken : Option Json} {page : ListedPage} {pages : List ListedPage}
      (hrequest : page.request = listing.request api accessToken pageToken)
      (hget : listing.get api accessToken call pageToken = .ok page.envelope)
      (hnext : truthy page.next = true)
      (hrest : Walk api accessToken listing left (call + 1) (some page.next) pages) :
      Walk api accessToken listing (left + 1) call pageToken (page :: pages)

/-- What an entry reduces to, if its name is the prefix and an id of the pattern. -/
def selectable (listing : Listing) (entry : Json) : Option Discovered :=
  let name := entry.getD "name" .null
  let identifier := String.ofList (name.text.toList.drop listing.namePrefix.length)
  if name = .str (listing.namePrefix ++ identifier) ∧ MatchesResourceId identifier then
    let label := entry.getD listing.labelField .null
    some ⟨identifier, if truthy label then label else .str identifier⟩
  else none

/-- The listing returned ids that can be selected: those of the pages, in order. -/
structure Selectable (api : ProfileApi) (accessToken : String) (listing : Listing)
    (pages : List ListedPage) (found : List Discovered) : Prop where
  listed : ∀ entry ∈ found, ∃ id, ResourceId.validate entry.resourceId = .ok id ∧ id.1 = entry.resourceId
  selected : ∀ entry ∈ found, ∀ id : ResourceId,
    (∃ selection, GoogleLocationSelection.validate entry.resourceId id.1 = .ok selection) ∧
      ∃ selection, GoogleLocationSelection.validate id.1 entry.resourceId = .ok selection
  kept : found = pages.flatMap fun page => (listing.pageEntries page.envelope).filterMap listing.selectable
  capped : pages.length ≤ GoogleProfile.maxPages
  first_request : ∀ page ∈ pages.head?, page.request = listing.request api accessToken none
  next_request : pages.IsChain fun page page' =>
    truthy page.next = true ∧ page'.request = listing.request api accessToken (some page.next)

/-- Every id that the listing returns can be selected. -/
structure AllSelectable (api : ProfileApi) (accessToken : String) (listing : Listing) : Prop where
  answered : ∀ pages, listing.Walk api accessToken GoogleProfile.maxPages 0 none pages →
    (∀ page ∈ pages, listing.PageReadable page.envelope) →
      ∃ found, listing.discoverAll api accessToken = .ok found
  selectable : ∀ found, listing.discoverAll api accessToken = .ok found →
    ∃ pages, listing.Walk api accessToken GoogleProfile.maxPages 0 none pages ∧
      listing.Selectable api accessToken pages found

/-- Every entry of the pages that is named by the prefix and one path segment is named by the prefix and an
id of the pattern. -/
def NoStray (listing : Listing) (pages : List ListedPage) : Prop :=
  ∀ page ∈ pages, ∀ entry ∈ listing.pageEntries page.envelope, ∀ identifier,
    entry.getD "name" .null = .str (listing.namePrefix ++ identifier) → identifier ≠ "" →
      '/' ∉ identifier.toList → MatchesResourceId identifier

/-! ## The entries

What `_resource_id` makes of a name, against the pattern. -/

section Entries

variable {listing : Listing} {entry : Json} {identifier : String} {discovered : Discovered}

theorem segment_of_matches (h : MatchesResourceId identifier) :
    identifier ≠ "" ∧ '/' ∉ identifier.toList := by
  refine ⟨?_, fun hslash => ?_⟩
  · rintro rfl
    exact absurd h.1 (by decide)
  · exact absurd (List.all_eq_true.mp h.2.2 _ hslash) (by decide)

/-- The label of an entry. -/
def label (listing : Listing) (entry : Json) (identifier : String) : Json :=
  if truthy (entry.getD listing.labelField .null) then entry.getD listing.labelField .null
  else .str identifier

theorem drop_stem (namePrefix identifier : String) :
    (namePrefix ++ identifier).toList.drop namePrefix.length = identifier.toList := by
  rw [String.toList_append, ← String.length_toList, List.drop_left]

theorem ofList_eq_empty_iff {chars : List Char} : String.ofList chars = "" ↔ chars = [] := by
  rw [← String.toList_inj, String.toList_ofList]
  rfl

theorem resourceId_eq_some_iff {name : Json} {namePrefix : String} :
    GoogleProfile.resourceId name namePrefix = some identifier
      ↔ name = .str (namePrefix ++ identifier) ∧ identifier ≠ "" ∧ '/' ∉ identifier.toList := by
  cases name with
  | str text =>
      simp only [GoogleProfile.resourceId, Option.ite_none_right_eq_some, Option.some.injEq, Json.str.injEq,
        List.isPrefixOf_iff_prefix]
      constructor
      · rintro ⟨⟨⟨rest, hrest⟩, hne, hslash⟩, rfl⟩
        refine ⟨?_, ofList_eq_empty_iff.not.mpr hne, by rwa [String.toList_ofList]⟩
        rw [← String.toList_inj, String.toList_append, String.toList_ofList, ← hrest,
          ← String.length_toList, List.drop_left]
      · rintro ⟨rfl, hne, hslash⟩
        rw [drop_stem, String.ofList_toList]
        refine ⟨⟨?_, ?_, hslash⟩, rfl⟩
        · rw [String.toList_append]
          exact List.prefix_append _ _
        · rwa [ne_eq, ← ofList_eq_empty_iff, String.ofList_toList]
  | _ => simp [GoogleProfile.resourceId]

theorem discovered_eq_some_iff : listing.discovered entry = some discovered
    ↔ entry.getD "name" .null = .str (listing.namePrefix ++ discovered.resourceId) ∧
      (discovered.resourceId ≠ "" ∧ '/' ∉ discovered.resourceId.toList) ∧
        discovered.label = listing.label entry discovered.resourceId := by
  rw [Listing.discovered, Option.map_eq_some_iff]
  constructor
  · rintro ⟨identifier, hreduced, rfl⟩
    obtain ⟨hname, hsegment⟩ := resourceId_eq_some_iff.mp hreduced
    exact ⟨hname, hsegment, rfl⟩
  · rintro ⟨hname, hsegment, hlabel⟩
    exact ⟨_, resourceId_eq_some_iff.mpr ⟨hname, hsegment⟩, congrArg (Discovered.mk _) hlabel.symm⟩

theorem selectable_eq_some_iff : listing.selectable entry = some discovered
    ↔ entry.getD "name" .null = .str (listing.namePrefix ++ discovered.resourceId) ∧
      MatchesResourceId discovered.resourceId ∧
        discovered.label = listing.label entry discovered.resourceId := by
  simp only [selectable, Option.ite_none_right_eq_some, Option.some.injEq]
  constructor
  · rintro ⟨⟨hname, hmatches⟩, rfl⟩
    exact ⟨hname, hmatches, rfl⟩
  · rintro ⟨hname, hmatches, hlabel⟩
    simp only [hname, Json.text, drop_stem, String.ofList_toList]
    exact ⟨⟨trivial, hmatches⟩, congrArg (Discovered.mk _) hlabel.symm⟩

end Entries

/-! ## What a listing returns

By induction on the pages that are left under the cap. -/

section Pages

variable {api : ProfileApi} {accessToken : String} {listing : Listing} {left call : ℕ}
  {pageToken : Option Json} {pages : List ListedPage}

theorem Walk.length_le (h : listing.Walk api accessToken left call pageToken pages) :
    pages.length ≤ left := by
  induction h with
  | capped => exact le_rfl
  | last => simp
  | more _ _ _ _ ih => simpa using ih

theorem Walk.first_request (h : listing.Walk api accessToken left call pageToken pages) :
    ∀ page ∈ pages.head?, page.request = listing.request api accessToken pageToken := by
  cases h with
  | capped => nofun
  | last hrequest | more hrequest => simpa using hrequest

theorem Walk.next_request (h : listing.Walk api accessToken left call pageToken pages) :
    pages.IsChain fun page page' =>
      truthy page.next = true ∧ page'.request = listing.request api accessToken (some page.next) := by
  induction h with
  | capped => exact .nil
  | last => exact .singleton _
  | more _ _ hnext hrest ih =>
      exact List.isChain_cons.mpr ⟨fun page' h => ⟨hnext, hrest.first_request page' h⟩, ih⟩

/-- The entries of a walk. -/
def listed (listing : Listing) (pages : List ListedPage) : List Discovered :=
  pages.flatMap fun page => (listing.pageEntries page.envelope).filterMap listing.discovered

/-- **A listing returns the entries of its walk.** -/
theorem discoverPages_eq_ok_iff {found all : List Discovered} :
    listing.discoverPages api accessToken left call pageToken found = .ok all
      ↔ ∃ pages, listing.Walk api accessToken left call pageToken pages ∧
        (∀ page ∈ pages, listing.PageReadable page.envelope) ∧ all = found ++ listing.listed pages := by
  induction left generalizing call pageToken found with
  | zero =>
      constructor
      · rintro ⟨⟩
        exact ⟨[], .capped, nofun, by simp [listed]⟩
      · rintro ⟨_, ⟨⟩, -, rfl⟩
        simp [discoverPages, listed, pure, Except.pure]
  | succ left ih =>
      have hget {returns : Json → Prop} : Meets returns (fun _ => False)
          (listing.get api accessToken call pageToken)
            ↔ ∃ envelope, listing.get api accessToken call pageToken = .ok envelope ∧ returns envelope :=
        meets_of_never fun _ _ => id
      rw [← meets_eq_iff, discoverPages]
      simp only [meets_bind, hget, meets_discoverPage, meets_field, meets_ite, meets_pure, meets_eq_iff, ih]
      constructor
      · rintro ⟨envelope, hanswered, hreadable, -, hnext, hlast⟩
        by_cases htruthy : truthy (envelope.getD "nextPageToken" .null) = true
        · obtain ⟨pages, hwalk, hpages, rfl⟩ := hnext htruthy
          refine ⟨⟨_, envelope⟩ :: pages, .more rfl hanswered htruthy hwalk, ?_, ?_⟩
          · exact List.forall_mem_cons.mpr ⟨hreadable, hpages⟩
          · simp [listed]
        · refine ⟨[⟨_, envelope⟩], .last rfl hanswered (Bool.not_eq_true _ ▸ htruthy), ?_, ?_⟩
          · simpa using hreadable
          · simpa [listed] using (hlast htruthy).symm
      · rintro ⟨pages, hwalk, hpages, rfl⟩
        cases hwalk with
        | @last _ _ _ page hrequest hanswered hlast =>
            have hreadable := hpages page List.mem_cons_self
            refine ⟨_, hanswered, hreadable, hreadable.1, fun hnext => ?_, fun _ => by simp [listed]⟩
            exact absurd hnext (by simpa [ListedPage.next] using hlast)
        | @more _ _ _ page rest hrequest hanswered hnext hrest =>
            rw [List.forall_mem_cons] at hpages
            refine ⟨_, hanswered, hpages.1, hpages.1.1, fun _ => ⟨rest, hrest, hpages.2, ?_⟩, fun hlast => ?_⟩
            · simp [listed]
            · exact absurd hnext hlast

theorem discoverAll_eq_ok_iff {found : List Discovered} :
    listing.discoverAll api accessToken = .ok found
      ↔ ∃ pages, listing.Walk api accessToken GoogleProfile.maxPages 0 none pages ∧
        (∀ page ∈ pages, listing.PageReadable page.envelope) ∧ found = listing.listed pages := by
  rw [discoverAll, discoverPages_eq_ok_iff]
  simp

/-! ## Which of them can be selected

Both listings, and the account that goes astray. -/

theorem mem_listed {discovered : Discovered} : discovered ∈ listing.listed pages
    ↔ ∃ page ∈ pages, ∃ entry ∈ listing.pageEntries page.envelope,
      listing.discovered entry = some discovered := by
  simp [listed, List.mem_flatMap, List.mem_filterMap]

/-- Without a stray entry `_resource_id` is the pattern. -/
theorem listed_eq (hstray : listing.NoStray pages) : listing.listed pages
    = pages.flatMap fun page => (listing.pageEntries page.envelope).filterMap listing.selectable := by
  refine List.flatMap_congr fun page hpage => List.filterMap_congr fun entry hentry => ?_
  refine Option.ext fun discovered => ?_
  rw [discovered_eq_some_iff, selectable_eq_some_iff]
  refine and_congr_right fun hname => and_congr_left fun _ => ⟨fun hsegment => ?_, segment_of_matches⟩
  exact hstray page hpage entry hentry _ hname hsegment.1 hsegment.2

/-- **The listed ids follow the pattern exactly when no entry is stray.** -/
theorem listed_match_iff :
    (∀ discovered ∈ listing.listed pages, MatchesResourceId discovered.resourceId)
      ↔ listing.NoStray pages := by
  constructor
  · intro hmatch page hpage entry hentry identifier hname hne hslash
    refine hmatch ⟨identifier, listing.label entry identifier⟩
      (mem_listed.mpr ⟨page, hpage, entry, hentry, ?_⟩)
    exact discovered_eq_some_iff.mpr ⟨hname, ⟨hne, hslash⟩, rfl⟩
  · intro hstray discovered hlisted
    obtain ⟨page, hpage, entry, hentry, hdiscovered⟩ := mem_listed.mp hlisted
    obtain ⟨hname, hsegment, -⟩ := discovered_eq_some_iff.mp hdiscovered
    exact hstray page hpage entry hentry _ hname hsegment.1 hsegment.2

theorem selectable_of_walk (hwalk : listing.Walk api accessToken GoogleProfile.maxPages 0 none pages)
    (hstray : listing.NoStray pages) : listing.Selectable api accessToken pages (listing.listed pages) := by
  have hvalid : ∀ entry ∈ listing.listed pages, ∃ id, ResourceId.validate entry.resourceId = .ok id
      ∧ id.1 = entry.resourceId := fun entry hentry =>
    ⟨⟨_, listed_match_iff.mpr hstray entry hentry⟩, ResourceId.validate_eq_ok_iff.mpr rfl, rfl⟩
  refine
    { listed := hvalid, selected := ?_, kept := listed_eq hstray, capped := hwalk.length_le
      first_request := hwalk.first_request, next_request := hwalk.next_request }
  intro entry hentry id
  obtain ⟨own, hown, -⟩ := hvalid entry hentry
  have hid : ResourceId.validate id.1 = .ok id := ResourceId.validate_eq_ok_iff.mpr rfl
  simp only [GoogleLocationSelection.validate, hown, hid]
  exact ⟨⟨_, rfl⟩, _, rfl⟩

/-- **Which listings find only profiles that can be selected**: those whose pages name no entry outside the
pattern. -/
theorem allSelectable_iff (api : ProfileApi) (accessToken : String) (listing : Listing) :
    listing.AllSelectable api accessToken ↔
      ∀ pages, listing.Walk api accessToken GoogleProfile.maxPages 0 none pages →
        (∀ page ∈ pages, listing.PageReadable page.envelope) → listing.NoStray pages := by
  constructor
  · intro h pages hwalk hreadable
    have hfound := discoverAll_eq_ok_iff.mpr ⟨pages, hwalk, hreadable, rfl⟩
    obtain ⟨_, _, hselectable⟩ := h.selectable _ hfound
    refine listed_match_iff.mp fun discovered hlisted => ?_
    obtain ⟨id, -, hid⟩ := hselectable.listed discovered hlisted
    exact hid ▸ id.2
  · intro hstray
    refine ⟨fun pages hwalk hreadable => ⟨_, discoverAll_eq_ok_iff.mpr ⟨pages, hwalk, hreadable, rfl⟩⟩, ?_⟩
    intro found hfound
    obtain ⟨pages, hwalk, hreadable, rfl⟩ := discoverAll_eq_ok_iff.mp hfound
    exact ⟨pages, hwalk, selectable_of_walk hwalk (hstray pages hwalk hreadable)⟩

end Pages

/-- One page, with an account whose name goes on with a query string. -/
def strayApi : ProfileApi where
  answer _ _ := .response 200 ""
    (.ok (.obj [("accounts", .arr [.obj [("name", .str "accounts/1?key=2")]])]))
  refused _ := none
  queryValues _ := []
  str _ := ""
  answer_foreign _ _ := nofun
  refused_foreign := not_refused_foreign

/-- The account is found, and no route takes its id. -/
theorem not_allSelectable : ¬ GoogleProfile.accounts.AllSelectable strayApi "token" := by
  intro h
  obtain ⟨pages, -, hselectable⟩ := h.selectable [⟨"1?key=2", .str "1?key=2"⟩] rfl
  obtain ⟨id, -, hid⟩ := hselectable.listed _ List.mem_cons_self
  exact absurd (hid ▸ id.2) (by decide)

end Listing

end ReviewSignal
