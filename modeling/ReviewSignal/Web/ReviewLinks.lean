import ReviewSignal.Web.Client
import ReviewSignal.Web.Reviews

/-!
# Browsing the reviews

What a browser shows of `app/reviews/page.tsx`: the filter form leads to an address, the page behind an
address reads the filters in it, asks the API with them, and links to the pages before and after it by
addresses that hold the filters again.  On the way from the form to the rows every filter is written and read
as part of a query three times.

**`browsed_partition`**: whatever is put into the form, the links lead through the matching reviews, and back.
The pages hold each matching review once and in order, from the address of the form on; behind each link to a
page before is what was seen before.  An empty field of the form is a filter that is not there, and is
written as one in some addresses and left out in others, so filters are compared up to that (`Same`).

The numbers of the pages are doubles to JavaScript.  The theorem needs them to be exact, and has as its
hypothesis that the reviews are fewer than a double can count to.

A page that the API refuses shows an error and no links; which those are, `Answered` leaves to the services.
-/

namespace ReviewSignal

namespace ReviewLinks

open ReviewsPage WebClient

/-- What the page finds in its address: `Filters` -/
structure PageFilters where
  page : Option String
  q : Option String
  rating : Option String
  startDate : Option String
  endDate : Option String
  deriving DecidableEq

/-- A parameter of the page; several values are an array, which is written with commas. -/
def searchParam (pairs : List (String × String)) (name : String) : Option String :=
  match FormUrlEncoded.allValues pairs name with
  | [] => none
  | values => some (",".intercalate values)

/-- `await searchParams` -/
def PageFilters.ofAddress (address : String) : PageFilters :=
  let pairs := FormUrlEncoded.parse (FormUrlEncoded.query address)
  { page := searchParam pairs "page"
    q := searchParam pairs "q"
    rating := searchParam pairs "rating"
    startDate := searchParam pairs "start_date"
    endDate := searchParam pairs "end_date" }

/-- `Math.max(1, Number(filters.page) || 1)` -/
def pageNumber (js : JavaScript) (filters : PageFilters) : JsNumber :=
  ((filters.page.map js.number).getD .nan).orOne.maxOne

/-- The filters the page asks with. -/
def clientFilters (js : JavaScript) (filters : PageFilters) : Filters where
  q := filters.q
  rating := (truthyText filters.rating).map js.number
  startDate := filters.startDate
  endDate := filters.endDate

/-- The parameters of a link. -/
def hrefParams (js : JavaScript) (filters : PageFilters) (page : JsNumber) :
    List (String × Option String) :=
  [("q", truthyText filters.q), ("rating", truthyText filters.rating),
    ("start_date", truthyText filters.startDate), ("end_date", truthyText filters.endDate),
    ("page", some (js.string page))]

/-- `pageHref` -/
def pageHref (js : JavaScript) (filters : PageFilters) (page : JsNumber) : String :=
  "/reviews" ++ "?" ++ FormUrlEncoded.serialize FormUrlEncoded.urlSearchParams
    (FormUrlEncoded.present (hrefParams js filters page))

/-- What is shown of a page. -/
structure View where
  data : ReviewListPayload
  previous : Option String
  next : Option String

/-- `ReviewsPage` -/
def visit (js : JavaScript) (api : String → Except Exn ReviewListPayload) (address : String) :
    Except Exn View := do
  let filters := PageFilters.ofAddress address
  let page := pageNumber js filters
  let data ← api (reviewsPath js page (.finite 20) (clientFilters js filters))
  return ⟨data, if page.gtOne then some (pageHref js filters (js.add page (-1))) else none,
    if page.lt (totalPages data) then some (pageHref js filters (js.add page 1)) else none⟩

/-- The API the pages ask. -/
def api (pydantic : Pydantic) (server : Server) (table : ReviewRows) (path : String) :
    Except Exn ReviewListPayload :=
  ReviewParams.listReviews pydantic server table (FormUrlEncoded.query path)

/-- What is put into the filter form. -/
structure FormValues where
  q : String
  rating : String
  startDate : String
  endDate : String
  deriving DecidableEq, Repr

namespace FormValues

/-- The address the form leads to. -/
def href (values : FormValues) : String :=
  "/reviews" ++ "?" ++ FormUrlEncoded.serialize FormUrlEncoded.urlSearchParams
    [("q", values.q), ("rating", values.rating), ("start_date", values.startDate),
      ("end_date", values.endDate)]

/-- The fields of the form. -/
def params (values : FormValues) : List (String × Option String) :=
  [("q", some values.q), ("rating", some values.rating), ("start_date", some values.startDate),
    ("end_date", some values.endDate)]

/-- What the page behind it finds. -/
def filters (values : FormValues) : PageFilters :=
  ⟨none, some values.q, some values.rating, some values.startDate, some values.endDate⟩

end FormValues

/-- What the API is sent of the filters. -/
def sent (js : JavaScript) (filters : PageFilters) : ReviewParams.Texts where
  q := truthyText filters.q
  rating := (((truthyText filters.rating).map js.number).filter (·.truthy)).map js.string
  startDate := truthyText filters.startDate
  endDate := truthyText filters.endDate

/-- What is seen from an address on, following the links to the next page. -/
inductive Browsed (visit : String → Except Exn View) : String → List View → Prop
  | last {address : String} {view : View} (hvisit : visit address = .ok view)
      (hnext : view.next = none) : Browsed visit address [view]
  | next {address next : String} {view : View} {views : List View} (hvisit : visit address = .ok view)
      (hnext : view.next = some next) (hviews : Browsed visit next views) :
      Browsed visit address (view :: views)

/-- The link back leads to what was seen before. -/
def LeadsBack (visit : String → Except Exn View) (before after : View) : Prop :=
  ∃ address view, after.previous = some address ∧ visit address = .ok view ∧ view.data = before.data

variable {js : JavaScript} {pydantic : Pydantic} {server : Server} {table : ReviewRows}
  {request : ListRequest} {filters filters' : PageFilters} {address : String} {k : ℕ}

/-! ## Addresses

What is written into a query is found in it, and what is empty is as good as absent. -/

theorem searchParam_present {fields : List (String × Option String)}
    (hnodup : (fields.map (·.1)).Nodup) {name : String} {value : Option String}
    (h : (name, value) ∈ fields) : searchParam (FormUrlEncoded.present fields) name = value := by
  rw [searchParam, FormUrlEncoded.allValues_present hnodup h]
  cases value <;> rfl

theorem searchParam_absent {fields : List (String × Option String)} {name : String}
    (h : name ∉ fields.map (·.1)) : searchParam (FormUrlEncoded.present fields) name = none := by
  rw [searchParam, FormUrlEncoded.allValues, FormUrlEncoded.filter_present_eq_nil h]
  rfl

/-- The page behind a link finds the filters in it that are not empty. -/
theorem ofAddress_pageHref (page : JsNumber) : PageFilters.ofAddress (pageHref js filters page) =
    ⟨some (js.string page), truthyText filters.q, truthyText filters.rating,
      truthyText filters.startDate, truthyText filters.endDate⟩ := by
  have hnodup : ((hrefParams js filters page).map (·.1)).Nodup := by
    show ["q", "rating", "start_date", "end_date", "page"].Nodup
    decide
  have hvalue {name : String} {value : Option String} (h : (name, value) ∈ hrefParams js filters page) :=
    searchParam_present hnodup h
  rw [PageFilters.ofAddress, pageHref, FormUrlEncoded.query_append (forall_mem_of_all (by decide)),
    FormUrlEncoded.parse_serialize]
  simp only [PageFilters.mk.injEq]
  refine ⟨hvalue ?_, hvalue ?_, hvalue ?_, hvalue ?_, hvalue ?_⟩ <;> simp [hrefParams]

/-- The page behind the form finds what was put into it. -/
theorem ofAddress_href (values : FormValues) : PageFilters.ofAddress values.href = values.filters := by
  have hpresent : [("q", values.q), ("rating", values.rating), ("start_date", values.startDate),
      ("end_date", values.endDate)] = FormUrlEncoded.present values.params := rfl
  have hnodup : (values.params.map (·.1)).Nodup := by
    show ["q", "rating", "start_date", "end_date"].Nodup
    decide
  have habsent : "page" ∉ values.params.map (·.1) := by
    show "page" ∉ ["q", "rating", "start_date", "end_date"]
    decide
  have hvalue {name : String} {value : Option String} (h : (name, value) ∈ values.params) :=
    searchParam_present hnodup h
  rw [PageFilters.ofAddress, FormValues.href, FormUrlEncoded.query_append (forall_mem_of_all (by decide)),
    FormUrlEncoded.parse_serialize, hpresent, FormValues.filters]
  simp only [PageFilters.mk.injEq]
  refine ⟨searchParam_absent habsent, hvalue ?_, hvalue ?_, hvalue ?_, hvalue ?_⟩ <;>
    simp [FormValues.params]

/-- Filters are the same to the links and to the API when what is not empty of them is. -/
structure Same (filters filters' : PageFilters) : Prop where
  q : truthyText filters.q = truthyText filters'.q
  rating : truthyText filters.rating = truthyText filters'.rating
  startDate : truthyText filters.startDate = truthyText filters'.startDate
  endDate : truthyText filters.endDate = truthyText filters'.endDate

theorem truthyText_truthyText (text : Option String) : truthyText (truthyText text) = truthyText text := by
  rw [truthyText, truthyText, Option.filter_filter]
  simp

theorem same_pageHref (page : JsNumber) :
    Same (PageFilters.ofAddress (pageHref js filters page)) filters := by
  rw [ofAddress_pageHref]
  exact ⟨truthyText_truthyText _, truthyText_truthyText _, truthyText_truthyText _,
    truthyText_truthyText _⟩

theorem Same.pageHref (h : Same filters filters') (page : JsNumber) :
    pageHref js filters page = ReviewLinks.pageHref js filters' page := by
  rw [ReviewLinks.pageHref, ReviewLinks.pageHref, hrefParams, hrefParams, h.q, h.rating, h.startDate,
    h.endDate]

theorem Same.sent (h : Same filters filters') : sent js filters = ReviewLinks.sent js filters' := by
  rw [ReviewLinks.sent, ReviewLinks.sent, h.q, h.rating, h.startDate, h.endDate]

theorem pageNumber_pageHref (hjs : js.Exact) (hk : k + 1 ≤ 2 ^ 53) :
    pageNumber js (PageFilters.ofAddress (pageHref js filters (.finite (k + 1 : ℕ))))
      = .finite (k + 1 : ℕ) := by
  rw [ofAddress_pageHref, pageNumber]
  simp only [Option.map_some, Option.getD_some]
  rw [hjs.string _ hk, hjs.number _ hk, JsNumber.orOne, if_pos, JsNumber.maxOne, max_eq_right]
  · exact_mod_cast Nat.le_add_left 1 k
  · simp only [JsNumber.truthy, decide_eq_true_eq]
    exact_mod_cast Nat.succ_ne_zero k

/-! ## A visit

From an address to what is seen, by way of the API. -/

theorem eq_onPage {request' : ListRequest} (hfilters : request'.toReviewFilters = request.toReviewFilters)
    (hpage : request'.page = k + 1) (hpageSize : request'.pageSize = request.pageSize) :
    request' = onPage request (k + 1) := by
  obtain ⟨filters', page, pageSize, _, _, _, _⟩ := request'
  obtain ⟨filters, _, size, _, _, _, _⟩ := request
  obtain rfl : filters' = filters := hfilters
  obtain rfl : page = k + 1 := hpage
  obtain rfl : pageSize = size := hpageSize
  simp [onPage]

/-- What the API answers a page that reads the filters. -/
theorem api_reviewsPath (hjs : js.Exact) (hpydantic : pydantic.ReadsNumerals)
    (hrequest : (sent js filters).read pydantic = .ok request) (hk : k + 1 ≤ 2 ^ 53) :
    api pydantic server table (reviewsPath js (.finite (k + 1 : ℕ)) (.finite 20) (clientFilters js filters))
      = answer server table request (k + 1) := by
  obtain ⟨request', hread, hfilters, hpage, hpageSize⟩ := @ReviewParams.read_onPage _ (sent js filters) _
    hpydantic hrequest (k + 1) 20 ⟨Nat.succ_pos k, hk⟩ (by decide)
  have hdefault := (ReviewParams.read_defaults rfl rfl hrequest).2
  have htwenty : js.string (.finite 20) = toString 20 := hjs.string 20 (by decide)
  have htexts : ReviewParams.Texts.ofQuery (FormUrlEncoded.query
      (reviewsPath js (.finite (k + 1 : ℕ)) (.finite 20) (clientFilters js filters)))
      = { sent js filters with page := some (toString (k + 1)), pageSize := some (toString 20) } := by
    rw [texts_reviewsPath, hjs.string _ hk, htwenty]
    rfl
  rw [api, ReviewParams.listReviews, htexts, hread, eq_onPage hfilters hpage (hpageSize.trans hdefault.symm)]
  rfl

/-- What is seen of the `k`-th page behind the first. -/
def viewOf (js : JavaScript) (server : Server) (table : ReviewRows) (request : ListRequest)
    (filters : PageFilters) (k : ℕ) : View where
  data := shown server table request k
  previous := if 0 < k then some (pageHref js filters (.finite k)) else none
  next := if k + 1 < pageCount server table request
    then some (pageHref js filters (.finite (k + 1 + 1 : ℕ))) else none

theorem viewOf_next (h : k + 1 < pageCount server table request) :
    (viewOf js server table request filters k).next
      = some (pageHref js filters (.finite (k + 1 + 1 : ℕ))) := if_pos h

theorem viewOf_next_eq_none (h : ¬ k + 1 < pageCount server table request) :
    (viewOf js server table request filters k).next = none := if_neg h

theorem viewOf_previous : (viewOf js server table request filters (k + 1)).previous
    = some (pageHref js filters (.finite (k + 1 : ℕ))) := by
  show (if 0 < k + 1 then _ else none) = _
  exact if_pos k.succ_pos

/-- An address with the filters, or what is not empty of them, and a number leads to the page of the
number. -/
theorem visit_eq (hjs : js.Exact) (hpydantic : pydantic.ReadsNumerals)
    (hrequest : (sent js filters).read pydantic = .ok request)
    (hsame : Same (PageFilters.ofAddress address) filters)
    (hpage : pageNumber js (PageFilters.ofAddress address) = .finite (k + 1 : ℕ)) (hk : k + 2 ≤ 2 ^ 53)
    (hanswer : answer server table request (k + 1) = .ok (shown server table request k)) :
    visit js (api pydantic server table) address = .ok (viewOf js server table request filters k) := by
  have hdata := @api_reviewsPath js pydantic server table request (PageFilters.ofAddress address) k hjs
    hpydantic (by rw [hsame.sent]; exact hrequest) (by omega)
  have hgt : (JsNumber.finite (k + 1 : ℕ)).gtOne = decide (0 < k) := by
    rw [JsNumber.gtOne_natCast, decide_eq_decide]
    exact Nat.lt_add_left_iff_pos
  rw [visit, hpage, hdata, hanswer]
  show Except.ok _ = Except.ok _
  rw [hgt, JsNumber.lt_natCast, JavaScript.sub_one hjs (by omega), JavaScript.add_one hjs hk,
    hsame.pageHref, hsame.pageHref, viewOf, totalPages_shown]
  simp only [decide_eq_true_eq]

/-! ## The way through

By induction on the pages that are left, and back from each to the one before. -/

/-- The page of a number, by its link. -/
theorem visit_pageHref (hjs : js.Exact) (hpydantic : pydantic.ReadsNumerals)
    (hrequest : (sent js filters).read pydantic = .ok request) (hk : k + 2 ≤ 2 ^ 53)
    (hanswer : answer server table request (k + 1) = .ok (shown server table request k)) :
    visit js (api pydantic server table) (pageHref js filters (.finite (k + 1 : ℕ)))
      = .ok (viewOf js server table request filters k) :=
  visit_eq hjs hpydantic hrequest (same_pageHref _) (pageNumber_pageHref hjs (by omega)) hk hanswer

/-- Each page there is is seen behind its link. -/
def Answered (js : JavaScript) (pydantic : Pydantic) (server : Server) (table : ReviewRows)
    (request : ListRequest) (filters : PageFilters) : Prop :=
  ∀ k < pageCount server table request,
    visit js (api pydantic server table) (pageHref js filters (.finite (k + 1 : ℕ)))
      = .ok (viewOf js server table request filters k)

/-- The links lead from an address of a page through all that follow. -/
theorem browsed (hanswered : Answered js pydantic server table request filters) {left : ℕ}
    (hleft : k + left + 1 = pageCount server table request)
    (haddress : visit js (api pydantic server table) address
      = .ok (viewOf js server table request filters k)) :
    Browsed (visit js (api pydantic server table)) address
      ((List.range (left + 1)).map fun i => viewOf js server table request filters (k + i)) := by
  induction left generalizing k address with
  | zero => exact .last haddress (viewOf_next_eq_none (by omega))
  | succ left ih =>
      have hrest := ih (by omega) (hanswered (k + 1) (by omega))
      rw [List.range_succ_eq_map, List.map_cons, List.map_map]
      refine .next haddress (viewOf_next (by omega)) ?_
      simpa [Function.comp_def, Nat.add_assoc, Nat.add_comm 1] using hrest

/-- The link back of a page behind the first leads to the one before. -/
theorem leadsBack (hanswered : Answered js pydantic server table request filters)
    (hk : k < pageCount server table request) : LeadsBack (visit js (api pydantic server table))
      (viewOf js server table request filters k) (viewOf js server table request filters (k + 1)) :=
  ⟨_, _, viewOf_previous, hanswered k hk, rfl⟩

/-- A page behind the first has a row of its own. -/
theorem pageCount_lt {n : ℕ} (hn : 1 < n) (hcount : table.reviews.length < n) :
    pageCount server table request < n := by
  rcases Nat.lt_or_ge 1 (pageCount server table request) with hmore | hone
  · have hlast :=
      @mul_lt_length server table request (pageCount server table request - 1) (by omega) (by omega)
    have hrows : (pageCount server table request - 1) * 1
        ≤ (pageCount server table request - 1) * request.pageSize :=
      Nat.mul_le_mul_left _ request.one_le_pageSize
    have hmatching : (matching server table request.toReviewFilters).length ≤ table.reviews.length :=
      List.length_filter_le _ _
    omega
  · omega

/-- **The links lead through the matching reviews, and back.**  `sent` is what the API is sent of the form;
the request it is read as is the one whose reviews are partitioned. -/
theorem browsed_partition (js : JavaScript) (pydantic : Pydantic) (server : Server) (table : ReviewRows)
    (values : FormValues) (request : ListRequest) (hjs : js.Exact) (hpydantic : pydantic.ReadsNumerals)
    (hrequest : (sent js values.filters).read pydantic = .ok request)
    (hcheck : Windows.check request.startDate request.endDate = .ok ())
    (htext : ReviewReader.sendText request.q = .ok ()) (hcount : table.reviews.length < 2 ^ 53) :
    ∃ views, Browsed (visit js (api pydantic server table)) values.href views ∧
      Partition server table request (views.map (·.data)) ∧
      views.IsChain (LeadsBack (visit js (api pydantic server table))) := by
  have hanswer (k : ℕ) (hk : k < pageCount server table request) :
      answer server table request (k + 1) = .ok (shown server table request k) :=
    answer_of_send hcheck htext (sendOffset_of_lt hk (by omega))
  have hpages : pageCount server table request < 2 ^ 53 := pageCount_lt (by decide) hcount
  have hpositive : 0 < pageCount server table request := Nat.lt_of_lt_of_le one_pos (le_max_left _ _)
  have hanswered : Answered js pydantic server table request values.filters := fun k hk =>
    visit_pageHref hjs hpydantic hrequest (by omega) (hanswer k hk)
  have hfirst : visit js (api pydantic server table) values.href
      = .ok (viewOf js server table request values.filters 0) := by
    refine visit_eq hjs hpydantic hrequest ?_ ?_ (by decide) (hanswer 0 hpositive)
    · rw [ofAddress_href]
      exact ⟨rfl, rfl, rfl, rfl⟩
    · rw [ofAddress_href]
      rfl
  refine ⟨(List.range (pageCount server table request)).map
    (viewOf js server table request values.filters), ?_, ?_, ?_⟩
  · have hbrowsed := @browsed _ _ _ _ _ values.filters values.href 0 hanswered
      (pageCount server table request - 1) (by omega) hfirst
    rw [Nat.sub_add_cancel hpositive] at hbrowsed
    simpa using hbrowsed
  · rw [List.map_map]
    exact partition_shown
  · rw [List.isChain_map, List.isChain_range]
    exact fun k hk => leadsBack hanswered (by omega)

/-- Numerals only. -/
def numerals : Pydantic where
  int text := ((Python.parseInt Auth.asciiUnicode text).map .ok).getD
    (.error "Input should be a valid integer, unable to parse string as an integer")
  datetime _ := .error "Input should be a valid datetime or date"

theorem readsNumerals : numerals.ReadsNumerals := by
  intro n h
  have hread := @Python.parseInt_str _ Auth.knowsAscii_asciiUnicode n (JavaScript.length_toDigits_le h)
  have hstr : Python.str n = toString n := rfl
  rw [hstr] at hread
  show ((Python.parseInt Auth.asciiUnicode (toString n)).map _).getD _ = _
  rw [hread]
  rfl

/-- Five stars, and nothing else. -/
def fiveStars : FormValues := ⟨"", "5", "", ""⟩

/-- The request that stands for them. -/
def fiveStarsRequest : ListRequest :=
  { ListRequest.plain with rating := some 5, rating_range := by decide }

theorem browsed_partition_fiveStars : ∃ views,
    Browsed (visit .naturals (api numerals ReviewsService.asciiServer tiedReviews)) fiveStars.href views ∧
      Partition ReviewsService.asciiServer tiedReviews fiveStarsRequest (views.map (·.data)) ∧
      views.IsChain (LeadsBack (visit .naturals (api numerals ReviewsService.asciiServer tiedReviews))) :=
  browsed_partition .naturals numerals ReviewsService.asciiServer tiedReviews fiveStars fiveStarsRequest
    JavaScript.exact_naturals readsNumerals rfl rfl rfl (by decide)

end ReviewLinks

end ReviewSignal
