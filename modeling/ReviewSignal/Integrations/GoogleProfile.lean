import ReviewSignal.Foundations.Meets
import ReviewSignal.Integrations.DecodedBody

/-!
# Account and location discovery

`integrations/google/profile.py`: the accounts a grant can see, and the locations under one of them.
The two listings differ in their endpoint and in the names of the fields they read (`Listing`).

Nothing checks the shape of a 200 answer.  `Listing.Readable` is the condition under which a listing
nevertheless raises only what the integration layer documents; a page that is never requested, because
an earlier one failed, is free to be anything.

**What a listing may raise** (`meets_discoverPages`).  The condition is exact, and it is carried through the
loop with the entries found so far, because what a page contributes is asked for only if the pages before it
did not raise.

The cap on the pages ends a listing silently: what lies behind it is not found, and nobody is told.
-/

namespace ReviewSignal

open GoogleReviewSourceAdapter (truthy entries)

/-- What the client depends on: the answer to the `n`-th request of a run, what `httpx` raises while it
builds a request, the values it sends for a query parameter, and `str`.  What other packages raise is
no exception of the application. -/
structure ProfileApi where
  answer : ℕ → HttpRequest → HttpAnswer
  refused : HttpRequest → Option Exn
  queryValues : Json → List String
  str : Json → String
  answer_foreign : ∀ call request, (answer call request).Foreign
  refused_foreign : ∀ request exc, refused request = some exc → ¬ exc.Known

theorem not_refused_foreign : ∀ (_ : HttpRequest) (exc : Exn), none = some exc → ¬ exc.Known := nofun

/-- `DiscoveredAccount` and `DiscoveredLocation`.  The label is `name` or `title`, of any type. -/
structure Discovered where
  resourceId : String
  label : Json
  deriving DecidableEq

/-- One of the two surfaces: `what` it is called, which is also the field its entries are under, its
endpoint, and the shape of an entry. -/
structure Listing where
  what : String
  url : String
  params : List (String × String)
  namePrefix : String
  labelField : String
  deriving DecidableEq, Repr

namespace GoogleProfile

/-- `_ACCOUNTS_PAGE_SIZE` -/
def accountsPageSize : ℕ := 20

/-- `_LOCATIONS_PAGE_SIZE` -/
def locationsPageSize : ℕ := 100

/-- `_LOCATIONS_READ_MASK` -/
def locationsReadMask : String := "name,title"

/-- `_MAX_PAGES` -/
def maxPages : ℕ := 5

/-- `list_accounts` -/
def accounts : Listing where
  what := "accounts"
  url := "https://mybusinessaccountmanagement.googleapis.com/v1/accounts"
  params := [("pageSize", toString accountsPageSize)]
  namePrefix := "accounts/"
  labelField := "accountName"

/-- `list_locations` -/
def locations (accountId : String) : Listing where
  what := "locations"
  url := "https://mybusinessbusinessinformation.googleapis.com/v1/accounts/" ++ accountId ++ "/locations"
  params := [("pageSize", toString locationsPageSize), ("readMask", locationsReadMask)]
  namePrefix := "locations/"
  labelField := "title"

/-- `_resource_id` -/
def resourceId (name : Json) (namePrefix : String) : Option String :=
  match name with
  | .str text =>
      let identifier := text.toList.drop namePrefix.length
      if namePrefix.toList.isPrefixOf text.toList ∧ identifier ≠ [] ∧ '/' ∉ identifier then
        some (String.ofList identifier)
      else none
  | _ => none

end GoogleProfile

namespace Listing

/-- The request of `_get` for a page. -/
def request (api : ProfileApi) (accessToken : String) (listing : Listing) (pageToken : Option Json) :
    HttpRequest where
  url := listing.url
  params := listing.params ++
    match pageToken with
    | none => []
    | some pageToken => (api.queryValues pageToken).map ("pageToken", ·)
  authorization := "Bearer " ++ accessToken

/-- `_get` -/
def get (api : ProfileApi) (accessToken : String) (listing : Listing) (call : ℕ)
    (pageToken : Option Json) : Except Exn Json :=
  let request := listing.request api accessToken pageToken
  match api.refused request with
  | some exc => .error exc
  | none =>
      match api.answer call request with
      | .unreachable exc =>
          .error (sourceFetchError ("Google " ++ listing.what ++ " request failed: " ++ exc.message))
      | .response statusCode text body => do
          Google.raiseForStatus api.str statusCode text body listing.what
          body

/-- The body of the loop over the entries of a page. -/
def discover (listing : Listing) (entry : Json) : Except Exn (Option Discovered) := do
  let name ← entry.field "name" .null
  match GoogleProfile.resourceId name listing.namePrefix with
  | none => pure none
  | some resourceId =>
      let label ← entry.field listing.labelField .null
      pure (some ⟨resourceId, if truthy label then label else .str resourceId⟩)

/-- The loop over the entries of a page. -/
def discoverPage (listing : Listing) (envelope : Json) : Except Exn (List Discovered) := do
  let value ← envelope.field listing.what .null
  let found ← (← if truthy value then entries value else pure []).mapM listing.discover
  pure (found.filterMap id)

/-- The loop over `_paged`, for the pages that are left under the cap. -/
def discoverPages (api : ProfileApi) (accessToken : String) (listing : Listing) :
    (left call : ℕ) → (pageToken : Option Json) → (found : List Discovered) →
      Except Exn (List Discovered)
  | 0, _, _, found => pure found
  | left + 1, call, pageToken, found => do
      let envelope ← listing.get api accessToken call pageToken
      let page ← listing.discoverPage envelope
      let next ← envelope.field "nextPageToken" .null
      if truthy next then
        discoverPages api accessToken listing left (call + 1) (some next) (found ++ page)
      else pure (found ++ page)

/-- `list_accounts` and `list_locations` of `GoogleProfileClient`. -/
def discoverAll (api : ProfileApi) (accessToken : String) (listing : Listing) :
    Except Exn (List Discovered) :=
  listing.discoverPages api accessToken GoogleProfile.maxPages 0 none []

/-! ## What the answers must be

The condition on one entry, on one page and on the walk, each with the function it is exact for. -/

/-- The entry is one of the surface, under its documented name. -/
def discovered (listing : Listing) (entry : Json) : Option Discovered :=
  (GoogleProfile.resourceId (entry.getD "name" .null) listing.namePrefix).map fun resourceId =>
    let label := entry.getD listing.labelField .null
    ⟨resourceId, if truthy label then label else .str resourceId⟩

/-- The entries of a page. -/
def pageEntries (listing : Listing) (envelope : Json) : List Json :=
  (envelope.getD listing.what .null).items

/-- A page can be read: it is an object, and under the field of the surface nothing or an array of
objects. -/
def PageReadable (listing : Listing) (envelope : Json) : Prop :=
  envelope.isObj ∧
    (truthy (envelope.getD listing.what .null) → (envelope.getD listing.what .null).isArr) ∧
    ∀ entry ∈ listing.pageEntries envelope, entry.isObj

instance (listing : Listing) (envelope : Json) : Decidable (listing.PageReadable envelope) :=
  inferInstanceAs (Decidable (_ ∧ _))

/-- Every entry a page contributes is as `ok` asks. -/
def PageOk (listing : Listing) (ok : Discovered → Prop) (envelope : Json) : Prop :=
  ∀ entry ∈ (listing.pageEntries envelope).filterMap listing.discovered, ok entry

/-- A listing raises only what the integration layer documents, and what it returns is as `ok` asks:
every request of the walk can be built, every page of a 200 answer can be read, and if the walk comes
to its end then the entries of all pages were ok. -/
def Readable (api : ProfileApi) (accessToken : String) (listing : Listing) (ok : Discovered → Prop) :
    (left call : ℕ) → (pageToken : Option Json) → (before : Prop) → Prop
  | 0, _, _, before => before
  | left + 1, call, pageToken, before =>
      let request := listing.request api accessToken pageToken
      api.refused request = none ∧
        ∀ body, (api.answer call request).delivered = some body →
          ∃ envelope, body = .ok envelope ∧ listing.PageReadable envelope ∧
            if truthy (envelope.getD "nextPageToken" .null) then
              Readable api accessToken listing ok left (call + 1)
                (some (envelope.getD "nextPageToken" .null)) (before ∧ listing.PageOk ok envelope)
            else before ∧ listing.PageOk ok envelope

section Rules

variable {api : ProfileApi} {accessToken : String} {listing : Listing} {call : ℕ}
  {pageToken : Option Json} {raises : Exn → Prop}

theorem meets_get {returns : Json → Prop} :
    Meets returns Exn.Known (listing.get api accessToken call pageToken)
      ↔ api.refused (listing.request api accessToken pageToken) = none ∧
        ∀ body, (api.answer call (listing.request api accessToken pageToken)).delivered = some body →
          ∃ envelope, body = .ok envelope ∧ returns envelope := by
  simp only [get]
  cases hrefused : api.refused (listing.request api accessToken pageToken) with
  | some exc => simp [api.refused_foreign _ _ hrefused]
  | none =>
      have hforeign := api.answer_foreign call (listing.request api accessToken pageToken)
      cases hanswer : api.answer call (listing.request api accessToken pageToken) with
      | unreachable exc => simp [known_sourceFetchError, HttpAnswer.delivered]
      | response statusCode text body =>
          rw [hanswer] at hforeign
          simp only [meets_bind, meets_raiseForStatus, meets_of_never hforeign, HttpAnswer.delivered,
            Option.ite_none_right_eq_some, Option.some.injEq, true_and, and_imp, forall_apply_eq_imp_iff]

section Pages

variable [Exn.Ours raises]

theorem meets_discover {entry : Json} {returns : Option Discovered → Prop} :
    Meets returns raises (listing.discover entry)
      ↔ entry.isObj ∧ returns (listing.discovered entry) := by
  simp only [discover, discovered, meets_bind, meets_field]
  refine and_congr_right fun hobj => ?_
  cases GoogleProfile.resourceId (entry.getD "name" .null) listing.namePrefix with
  | none => simp
  | some resourceId => simp [meets_field, hobj]

/-- The loop over the entries, of any value that is truthy. -/
theorem meets_mapM_discover {entries : List Json} {returns : List (Option Discovered) → Prop} :
    Meets returns raises (entries.mapM listing.discover)
      ↔ (∀ entry ∈ entries, entry.isObj = true) ∧ returns (entries.map listing.discovered) :=
  meets_mapM fun _ _ _ => meets_discover

/-- Only an array has entries with fields. -/
theorem meets_entries {value : Json} {returns : List Json → Prop} (htruthy : truthy value = true)
    (hreturns : ∀ items, returns items → ∀ item ∈ items, item.isObj = true) :
    Meets returns raises (entries value) ↔ value.isArr = true ∧ returns value.items := by
  cases value with
  | null => simp [truthy] at htruthy
  | bool value => simp [entries, Json.isArr, Exn.Ours.foreign raises]
  | num value => simp [entries, Json.isArr, Exn.Ours.foreign raises]
  | arr items => simp [entries, Json.isArr, Json.items]
  | str text =>
      -- its characters are texts again
      simp only [entries, meets_ok, Json.isArr, Bool.false_eq_true, false_and, iff_false]
      intro h
      cases hchars : text.toList with
      | nil => simp_all [truthy]
      | cons c chars => simpa [Json.isObj] using hreturns _ h (.str (String.ofList [c])) (by simp [hchars])
  | obj fields =>
      simp only [entries, meets_ok, Json.isArr, Bool.false_eq_true, false_and, iff_false]
      intro h
      cases fields with
      | nil => simp [truthy] at htruthy
      | cons field fields => simpa [Json.isObj] using hreturns _ h (.str field.1) (by simp)

theorem items_of_not_truthy {value : Json} (h : ¬ truthy value = true) : value.items = [] := by
  cases value <;> simp_all [truthy, Json.items]

theorem meets_discoverPage {envelope : Json} {returns : List Discovered → Prop} :
    Meets returns raises (listing.discoverPage envelope)
      ↔ listing.PageReadable envelope ∧
        returns ((listing.pageEntries envelope).filterMap listing.discovered) := by
  simp only [discoverPage, PageReadable, pageEntries, meets_bind, meets_field, meets_ite,
    meets_mapM_discover, meets_pure, List.filterMap_map, Function.id_comp]
  by_cases htruthy : truthy (envelope.getD listing.what .null) = true
  · rw [meets_entries htruthy fun items h => h.1]
    simp [htruthy, and_assoc]
  · simp [htruthy, items_of_not_truthy]

end Pages

/-- **What a listing may raise.**  `before` says that the entries found so far are ok. -/
theorem meets_discoverPages {ok : Discovered → Prop} {left : ℕ} {found : List Discovered} :
    Meets (fun all => ∀ entry ∈ all, ok entry) Exn.Known
        (listing.discoverPages api accessToken left call pageToken found)
      ↔ listing.Readable api accessToken ok left call pageToken (∀ entry ∈ found, ok entry) := by
  induction left generalizing call pageToken found with
  | zero => rfl
  | succ left ih =>
      simp only [discoverPages, Readable, meets_bind, meets_get, meets_discoverPage]
      refine and_congr_right fun _ => forall₂_congr fun body _ => exists_congr fun envelope =>
        and_congr_right fun _ => and_congr_right fun hreadable => ?_
      rw [meets_field, and_iff_right hreadable.1]
      split_ifs
      · rw [ih]
        simp only [List.forall_mem_append]
        rfl
      · simp only [meets_pure, List.forall_mem_append]
        rfl

end Rules

end Listing

end ReviewSignal
