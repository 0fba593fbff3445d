import ReviewSignal.Integrations.Base

/-!
# The Google reviews client

`integrations/google`: the translation of HTTP answers into the contract's errors (`http.py`), one
request of the reviews endpoint (`client.py`) and the adapter over it (`adapter.py`).

What Google answers to a request, the mapping of one entry and `str` of a JSON value are parameters
(`GoogleApi`).

Three things the adapter does are easy to overlook.  A token that is no string is sent as its `str`, and an
empty one ends the walk.  An entry the mapping cannot store is counted and skipped, while an entry it raises
on ends the page.  And 401 and 403 are told apart from other failures: they become
`SourceNotConnectedError`, as though the source were not connected (`Exn.NotConnected`).
-/

namespace ReviewSignal

/-- What a GET comes to.  `body` is what `response.json()` does. -/
inductive HttpAnswer where
  | unreachable (exc : Exn)
  | response (statusCode : ℕ) (text : String) (body : Except Exn Json)

/-- A GET request. -/
structure HttpRequest where
  url : String
  params : List (String × String)
  authorization : String
  deriving DecidableEq, Repr

/-- What the client and the adapter depend on: the answer to the `n`-th request of a run, the mapping
`to_normalized_review`, and `str`. -/
structure GoogleApi where
  answer : ℕ → HttpRequest → HttpAnswer
  toNormalizedReview : Json → Except Exn (Option NormalizedReview)
  str : Json → String

namespace Google

/-- `error_message` -/
def errorMessage (str : Json → String) (text : String) (body : Except Exn Json) : String :=
  match body with
  | .error _ => String.ofList (text.toList.take 200)
  | .ok body =>
      match (body.get? "error").bind (·.get? "message") with
      | none => String.ofList (text.toList.take 200)
      | some message => str message

/-- `raise_for_status` -/
def raiseForStatus (str : Json → String) (statusCode : ℕ) (text : String) (body : Except Exn Json)
    (what : String) : Except Exn Unit :=
  if statusCode = 401 ∨ statusCode = 403 then
    .error (sourceNotConnectedError ("Google credentials rejected (" ++ toString statusCode ++ "): "
      ++ errorMessage str text body))
  else if statusCode ≠ 200 then
    .error (sourceFetchError ("Google " ++ what ++ " request failed (" ++ toString statusCode ++ "): "
      ++ errorMessage str text body))
  else .ok ()

/-- `_BASE_URL` -/
def baseUrl : String := "https://mybusiness.googleapis.com/v4"

/-- `_PAGE_SIZE` -/
def pageSize : ℕ := 50

end Google

/-- `GoogleReviewsClient` -/
structure GoogleReviewsClient where
  accessToken : String
  accountId : String
  locationId : String
  deriving DecidableEq, Repr

namespace GoogleReviewsClient

/-- The request of `list_reviews`. -/
def request (client : GoogleReviewsClient) (pageToken : Option String) : HttpRequest where
  url := Google.baseUrl ++ "/accounts/" ++ client.accountId ++ "/locations/" ++ client.locationId
    ++ "/reviews"
  params := [("pageSize", toString Google.pageSize), ("orderBy", "updateTime desc")] ++
    match pageToken with
    | none => []
    | some pageToken => if pageToken = "" then [] else [("pageToken", pageToken)]
  authorization := "Bearer " ++ client.accessToken

/-- `list_reviews`, as the `call`-th request of a run. -/
def listReviews (api : GoogleApi) (client : GoogleReviewsClient) (call : ℕ)
    (pageToken : Option String) : Except Exn Json :=
  match api.answer call (client.request pageToken) with
  | .unreachable exc => .error (sourceFetchError ("Google reviews request failed: " ++ exc.message))
  | .response statusCode text body => do
      Google.raiseForStatus api.str statusCode text body "reviews"
      body

end GoogleReviewsClient

namespace GoogleReviewSourceAdapter

/-- `for entry in value` -/
def entries : Json → Except Exn (List Json)
  | .arr items => .ok items
  | .str text => .ok (text.toList.map fun c => .str (String.ofList [c]))
  | .obj fields => .ok (fields.map fun field => .str field.1)
  | .null => .error ⟨"TypeError", "'NoneType' object is not iterable"⟩
  | .bool _ => .error ⟨"TypeError", "'bool' object is not iterable"⟩
  | .num _ => .error ⟨"TypeError", "'int' object is not iterable"⟩

/-- `bool(value)` -/
def truthy : Json → Bool
  | .null => false
  | .bool value => value
  | .num value => value ≠ 0
  | .str value => value ≠ ""
  | .arr items => ¬ items.isEmpty
  | .obj fields => ¬ fields.isEmpty

/-- `envelope.get("nextPageToken") or None`; a token that is no string is sent as its `str`. -/
def nextCursor (str : Json → String) (envelope : Json) : Option String :=
  match envelope.get? "nextPageToken" with
  | none => none
  | some value =>
      if truthy value then
        match value with
        | .str token => some token
        | value => some (str value)
      else none

/-- The loop of `fetch_page`: the mapped reviews, and the number of entries that cannot be stored. -/
def mapEntries (map : Json → Except Exn (Option NormalizedReview)) :
    List Json → Except Exn (List NormalizedReview × ℕ)
  | [] => .ok ([], 0)
  | entry :: rest => do
      let normalized ← map entry
      let (reviews, unmappable) ← mapEntries map rest
      match normalized with
      | none => .ok (reviews, unmappable + 1)
      | some review => .ok (review :: reviews, unmappable)

/-- `fetch_page` -/
def fetchPage (api : GoogleApi) (client : GoogleReviewsClient) (call : ℕ) (cursor : Option String) :
    Except Exn ReviewPage := do
  match ← client.listReviews api call cursor with
  | .obj fields =>
      let items ← entries (((Json.obj fields).get? "reviews").getD (.arr []))
      let (reviews, unmappableCount) ← mapEntries api.toNormalizedReview items
      .ok ⟨reviews, nextCursor api.str (.obj fields), unmappableCount⟩
  | _ => .error ⟨"AttributeError", "the reviews response has no attribute 'get'"⟩

end GoogleReviewSourceAdapter

/-- `GoogleReviewSourceAdapter` -/
def googleAdapter (api : GoogleApi) (client : GoogleReviewsClient) : ReviewSourceAdapter where
  source := "google"
  fetchPage := GoogleReviewSourceAdapter.fetchPage api client

/-! ## Rejected credentials

The kind of exception `UnrecoverableFailures` is about. -/

/-- The exception says that no usable credentials exist. -/
def Exn.NotConnected (exc : Exn) : Prop := exc.typeName = "SourceNotConnectedError"

instance (exc : Exn) : Decidable exc.NotConnected := inferInstanceAs (Decidable (_ = _))

theorem notConnected_sourceNotConnectedError (message : String) :
    (sourceNotConnectedError message).NotConnected := rfl

end ReviewSignal
