import ReviewSignal.Foundations.Pages
import ReviewSignal.Services.Reviews

/-!
# The pager of the reviews page

`app/reviews/page.tsx` shows one page of the list and a link to the next one, as long as the page it is on is
before the last.  It works out the last page from the total and the page size of the answer.

**`pages_partition`**: the pages behind these links are the matching reviews, cut: each of them once and in
the order of the list, all pages but the last full, and every page with the total (`Partition`).  No two rows
tie in that order, because their ids differ, so the cuts are at the same places in every statement.

The service refuses some filters and PostgreSQL some offsets, so that not every page is answered
(`not_answered`): a window that ends before it starts has no page at all, and a page far enough behind the
last one is an error and not an empty page.  The offsets of the pages there are can always be sent.

The table stays as it is while the pages are read.  A row that is inserted in between moves the cuts.
-/

namespace ReviewSignal

namespace ReviewsPage

/-- The request for a page: `page = Math.max(1, Number(filters.page) || 1)`. -/
def onPage (request : ListRequest) (page : ℕ) : ListRequest :=
  { request with page := max 1 page, one_le_page := le_max_left 1 page }

/-- `Math.max(1, Math.ceil(data.total / data.page_size))` -/
def totalPages (data : ReviewListPayload) : ℕ := max 1 ⌈(data.total : ℚ) / data.pageSize⌉₊

/-- The link to the next page: `page < totalPages && …pageHref(filters, page + 1)` -/
def nextPage (page : ℕ) (data : ReviewListPayload) : Option ℕ :=
  if page < totalPages data then some (page + 1) else none

/-- What is seen from a page on, following the links to the next one. -/
inductive Followed (answer : ℕ → Except Exn ReviewListPayload) : ℕ → List ReviewListPayload → Prop
  | last {page : ℕ} {data : ReviewListPayload} (hanswer : answer page = .ok data)
      (hnext : nextPage page data = none) : Followed answer page [data]
  | next {page next : ℕ} {data : ReviewListPayload} {pages : List ReviewListPayload}
      (hanswer : answer page = .ok data) (hnext : nextPage page data = some next)
      (hpages : Followed answer next pages) : Followed answer page (data :: pages)

/-- The answers to one request, by page. -/
def answer (server : Server) (table : ReviewRows) (request : ListRequest) (page : ℕ) :
    Except Exn ReviewListPayload :=
  ReviewsService.listReviews server table (onPage request page)

/-- The row meets the filters; a text is searched for as `ILIKE` does. -/
def Matches (server : Server) (filters : ReviewFilters) (row : StoredReview) : Prop :=
  (∀ q ∈ filters.q, q ≠ "" → ∃ text ∈ row.reviewText,
      Like.ilike server.folding ("%" ++ q ++ "%") text = .ok true)
    ∧ (∀ rating ∈ filters.rating, row.rating = rating)
    ∧ (∀ startDate ∈ filters.startDate, startDate.instant server.zone ≤ row.createdAt)
    ∧ (∀ endDate ∈ filters.endDate, row.createdAt ≤ endDate.instant server.zone)

instance (server : Server) (filters : ReviewFilters) : DecidablePred (Matches server filters) :=
  fun _ => inferInstanceAs (Decidable (_ ∧ _ ∧ _ ∧ _))

/-- The rows that meet the filters. -/
def matching (server : Server) (table : ReviewRows) (filters : ReviewFilters) : List StoredReview :=
  table.reviews.filter (Matches server filters)

/-- `(created_at, id)` descends. -/
def Descends (a b : ReviewSummary) : Prop :=
  b.createdAt < a.createdAt ∨ a.createdAt = b.createdAt ∧ b.id < a.id

/-- The pages hold each matching review once and in order, all but the last are full, and each shows the
total. -/
structure Partition (server : Server) (table : ReviewRows) (request : ListRequest)
    (pages : List ReviewListPayload) : Prop where
  length : pages.length
    = max 1 ⌈((matching server table request.toReviewFilters).length : ℚ) / request.pageSize⌉₊
  once : (pages.flatMap (·.items)).Perm
    ((matching server table request.toReviewFilters).map ReviewsService.summary)
  distinct : ((pages.flatMap (·.items)).map (·.id)).Nodup
  descending : (pages.flatMap (·.items)).Pairwise Descends
  total : ∀ data ∈ pages, data.total = (matching server table request.toReviewFilters).length
  full : ∀ data ∈ pages.dropLast, data.items.length = request.pageSize

variable {server : Server} {table : ReviewRows} {request : ListRequest} {filters : ReviewFilters}
variable {row : StoredReview}

/-! ## One page

The answer to a request for a page, where its window is in order and its parameters can be sent. -/

theorem matched_eq_matches :
    ReviewReader.matched server filters row = decide (Matches server filters row) := by
  have htext (q : String) : ReviewReader.accepts (ReviewReader.textCondition server q row) = true ↔
      ∃ text ∈ row.reviewText, Like.ilike server.folding ("%" ++ q ++ "%") text = .ok true := by
    rw [ReviewReader.textCondition]
    cases row.reviewText with
    | none => simp [ReviewReader.accepts]
    | some text =>
        obtain ⟨pattern, -, -, hilike⟩ := Like.ilike_around server.folding q
        simp [hilike, ReviewReader.accepts]
  rw [ReviewReader.matched_eq, Bool.eq_iff_iff, decide_eq_true_eq, Matches]
  cases filters.q with
  | none =>
      cases filters.rating <;> cases filters.startDate <;> cases filters.endDate <;>
        simp [and_assoc]
  | some q =>
      by_cases hempty : q = "" <;>
        cases filters.rating <;> cases filters.startDate <;> cases filters.endDate <;>
          simp [hempty, htext, and_assoc]

/-- The matching rows in the order of the list. -/
def sorted (server : Server) (table : ReviewRows) (filters : ReviewFilters) : List StoredReview :=
  (matching server table filters).insertionSort ReviewReader.Newer

theorem length_sorted :
    (sorted server table filters).length = (matching server table filters).length := by
  simp [sorted]

/-- The `k`-th page behind the first. -/
def shown (server : Server) (table : ReviewRows) (request : ListRequest) (k : ℕ) : ReviewListPayload where
  items := page request.pageSize k ((sorted server table request.toReviewFilters).map ReviewsService.summary)
  page := k + 1
  pageSize := request.pageSize
  total := (matching server table request.toReviewFilters).length

theorem page_onPage (request : ListRequest) (k : ℕ) : (onPage request (k + 1)).page = k + 1 := by
  simp [onPage]

/-- A request is answered once its window is checked and its parameters are sent. -/
theorem answer_eq (k : ℕ) : answer server table request (k + 1) = (do
    Windows.check request.startDate request.endDate
    ReviewReader.sendText request.q
    ReviewReader.sendOffset (k * request.pageSize)
    return shown server table request k) := by
  have hmatched : ReviewReader.matched server request.toReviewFilters
      = fun row => decide (Matches server request.toReviewFilters row) :=
    funext fun row => matched_eq_matches
  have hpage : ReviewsService.payloadOf (onPage request (k + 1))
      (matching server table request.toReviewFilters) = shown server table request k := by
    rw [ReviewsService.payloadOf, page_onPage, shown, page, Nat.add_sub_cancel, ← List.map_drop,
      ← List.map_take]
    rfl
  rw [answer, ReviewsService.listReviews_eq, page_onPage, Nat.add_sub_cancel]
  show (Windows.check request.startDate request.endDate >>= fun _ =>
    ReviewReader.sendText request.q >>= fun _ =>
    ReviewReader.sendOffset (k * request.pageSize) >>= fun _ =>
    .ok (ReviewsService.payloadOf (onPage request (k + 1))
      (table.reviews.filter (ReviewReader.matched server request.toReviewFilters)))) = _
  rw [hmatched, ← hpage]
  rfl

/-! ## The order

`ORDER BY created_at DESC, id DESC`, of rows with ids of their own. -/

instance : Std.Total ReviewReader.Newer where
  total a b := by
    simp only [ReviewReader.Newer]
    lia

instance : IsTrans StoredReview ReviewReader.Newer where
  trans a b c hab hbc := by
    simp only [ReviewReader.Newer] at hab hbc ⊢
    lia

theorem nodup_ids : ((sorted server table filters).map (·.id)).Nodup := by
  have hperm : ((sorted server table filters).map (·.id)).Perm
      ((matching server table filters).map (·.id)) := (List.perm_insertionSort _ _).map _
  rw [hperm.nodup_iff]
  exact table.ids_nodup.sublist (List.filter_sublist.map _)

/-- No two rows tie, for their keys differ. -/
theorem sorted_descends :
    ((sorted server table filters).map ReviewsService.summary).Pairwise Descends := by
  have hnewer : (sorted server table filters).Pairwise ReviewReader.Newer :=
    List.pairwise_insertionSort _ _
  have hdistinct : (sorted server table filters).Pairwise fun a b => a.id ≠ b.id :=
    List.pairwise_map.mp nodup_ids
  rw [List.pairwise_map]
  refine (hnewer.and hdistinct).imp ?_
  rintro a b ⟨hab, hne⟩
  simp only [ReviewReader.Newer] at hab
  simp only [Descends, ReviewsService.summary]
  lia

/-! ## All pages

The list, cut at multiples of the page size, and the links from each piece to the next. -/

/-- The number of pages there are. -/
def pageCount (server : Server) (table : ReviewRows) (request : ListRequest) : ℕ :=
  max 1 ⌈((matching server table request.toReviewFilters).length : ℚ) / request.pageSize⌉₊

theorem totalPages_shown (k : ℕ) :
    totalPages (shown server table request k) = pageCount server table request := rfl

theorem length_le_pageCount_mul : (matching server table request.toReviewFilters).length
    ≤ pageCount server table request * request.pageSize := by
  have hsize := request.one_le_pageSize
  calc (matching server table request.toReviewFilters).length
      ≤ ⌈((matching server table request.toReviewFilters).length : ℚ) / request.pageSize⌉₊
        * request.pageSize := le_ceil_mul hsize
    _ ≤ pageCount server table request * request.pageSize :=
        Nat.mul_le_mul_right _ (le_max_right _ _)

/-- A page behind the first has rows, and as many in front of it. -/
theorem mul_lt_length {k : ℕ} (hk : k < pageCount server table request) (hpositive : 0 < k) :
    k * request.pageSize < (matching server table request.toReviewFilters).length := by
  rw [pageCount] at hk
  exact (lt_ceil_iff request.one_le_pageSize).mp (by omega)

/-- The offsets of the pages there are can be sent. -/
theorem sendOffset_of_lt {k : ℕ} (hk : k < pageCount server table request)
    (hcount : table.reviews.length ≤ 2 ^ 63) : ReviewReader.sendOffset (k * request.pageSize) = .ok () := by
  rw [ReviewReader.sendOffset, if_neg]
  rcases Nat.eq_zero_or_pos k with rfl | hpositive
  · simp
  · have hless := mul_lt_length hk hpositive
    have hmatching : (matching server table request.toReviewFilters).length ≤ table.reviews.length :=
      List.length_filter_le _ _
    omega

theorem answer_of_send {k : ℕ} (hcheck : Windows.check request.startDate request.endDate = .ok ())
    (htext : ReviewReader.sendText request.q = .ok ())
    (hoffset : ReviewReader.sendOffset (k * request.pageSize) = .ok ()) :
    answer server table request (k + 1) = .ok (shown server table request k) := by
  rw [answer_eq, hcheck, htext, hoffset]
  rfl

/-- The links lead from any page through all that follow. -/
theorem followed (hanswer : ∀ k < pageCount server table request,
      answer server table request (k + 1) = .ok (shown server table request k))
    {left k : ℕ} (hleft : k + left + 1 = pageCount server table request) :
    Followed (answer server table request) (k + 1)
      ((List.range (left + 1)).map fun i => shown server table request (k + i)) := by
  induction left generalizing k with
  | zero =>
      refine .last (hanswer k (by omega)) ?_
      rw [nextPage, totalPages_shown, if_neg (by omega)]
  | succ left ih =>
      have hrest := @ih (k + 1) (by omega)
      rw [List.range_succ_eq_map, List.map_cons, List.map_map]
      have hnext : nextPage (k + 1) (shown server table request k) = some (k + 1 + 1) := by
        rw [nextPage, totalPages_shown, if_pos (by omega)]
      refine .next (hanswer k (by omega)) hnext ?_
      simpa [Function.comp_def, Nat.add_assoc, Nat.add_comm 1] using hrest

theorem flatMap_items : ((List.range (pageCount server table request)).map
      (shown server table request)).flatMap (·.items)
    = (sorted server table request.toReviewFilters).map ReviewsService.summary := by
  rw [List.flatMap_map]
  show (List.range _).flatMap (fun k => page request.pageSize k _) = _
  rw [flatMap_page, List.take_of_length_le]
  rw [List.length_map, length_sorted]
  exact length_le_pageCount_mul

theorem partition_shown : Partition server table request
    ((List.range (pageCount server table request)).map (shown server table request)) := by
  have hpositive : 0 < pageCount server table request := Nat.lt_of_lt_of_le one_pos (le_max_left _ _)
  refine ⟨by simp [pageCount], ?_, ?_, ?_, ?_, ?_⟩
  · rw [flatMap_items]
    exact (List.perm_insertionSort _ _).map _
  · rw [flatMap_items, List.map_map]
    exact nodup_ids
  · rw [flatMap_items]
    exact sorted_descends
  · simp [shown]
  · intro data hdata
    obtain ⟨n, hn⟩ : ∃ n, pageCount server table request = n + 1 :=
      ⟨pageCount server table request - 1, by omega⟩
    rw [hn, List.range_succ, List.map_append, List.map_singleton, List.dropLast_concat] at hdata
    obtain ⟨k, hk, rfl⟩ := List.mem_map.mp hdata
    rw [List.mem_range] at hk
    refine length_page ?_
    -- the page behind it is not empty
    have hless := @mul_lt_length server table request (k + 1) (by omega) k.succ_pos
    rw [List.length_map, length_sorted]
    exact hless.le

/-- **The pages partition the reviews.**  The links lead through pages that hold each matching review once, in
the order of the list; a later page is empty, as long as its offset can be sent. -/
theorem pages_partition (server : Server) (table : ReviewRows) (request : ListRequest)
    (hcheck : Windows.check request.startDate request.endDate = .ok ())
    (htext : ReviewReader.sendText request.q = .ok ()) (hcount : table.reviews.length ≤ 2 ^ 63) :
    ∃ pages, Followed (answer server table request) 1 pages ∧ Partition server table request pages ∧
      ∀ later, pages.length < later → (later - 1) * request.pageSize < 2 ^ 63 →
        answer server table request later = .ok ⟨[], later, request.pageSize,
          (matching server table request.toReviewFilters).length⟩ := by
  have hanswer (k : ℕ) (hk : k < pageCount server table request) :
      answer server table request (k + 1) = .ok (shown server table request k) :=
    answer_of_send hcheck htext (sendOffset_of_lt hk hcount)
  have hpositive : 0 < pageCount server table request := Nat.lt_of_lt_of_le one_pos (le_max_left _ _)
  refine ⟨(List.range (pageCount server table request)).map (shown server table request), ?_,
    partition_shown, ?_⟩
  · have hfollowed := @followed _ _ _ hanswer (pageCount server table request - 1) 0 (by omega)
    rw [Nat.sub_add_cancel hpositive] at hfollowed
    simpa using hfollowed
  · intro later hlater hsent
    rw [List.length_map, List.length_range] at hlater
    obtain ⟨k, rfl⟩ : ∃ k, later = k + 1 := ⟨later - 1, by omega⟩
    rw [Nat.add_sub_cancel] at hsent
    rw [answer_of_send hcheck htext (by rw [ReviewReader.sendOffset, if_neg (not_le.mpr hsent)]), shown,
      page_eq_nil]
    rw [List.length_map, length_sorted]
    exact length_le_pageCount_mul.trans (Nat.mul_le_mul_right _ (by omega))

/-- A review of one moment. -/
def reviewAt (id : ℕ) (createdAt : Instant) : StoredReview where
  source := "google"
  rating := 5
  reviewText := none
  reviewerName := none
  createdAt := createdAt
  updatedAt := createdAt
  ownerReplyText := none
  ownerReplyAt := none
  language := "en"
  rawPayload := .obj []
  analysisStatus := .skipped
  id := id
  sourceReviewId := "1"
  text_storable := no_text_storable

/-- Three reviews, two of them of one moment. -/
def tiedReviews : ReviewRows := ⟨[reviewAt 0 10, reviewAt 1 20, reviewAt 2 10], by decide⟩

/-- A page for each of them. -/
def onePerPage : ListRequest :=
  { ListRequest.plain with pageSize := 1, one_le_pageSize := le_rfl, pageSize_le := by decide }

theorem pages_partition_tied : ∃ pages,
    Followed (answer ReviewsService.asciiServer tiedReviews onePerPage) 1 pages ∧
      Partition ReviewsService.asciiServer tiedReviews onePerPage pages ∧
      ∀ later, pages.length < later → (later - 1) * 1 < 2 ^ 63 →
        answer ReviewsService.asciiServer tiedReviews onePerPage later = .ok ⟨[], later, 1,
          (matching ReviewsService.asciiServer tiedReviews onePerPage.toReviewFilters).length⟩ :=
  pages_partition ReviewsService.asciiServer tiedReviews onePerPage rfl rfl (by decide)

/-- A request for the time from the second day of 1970 to the first. -/
def backwards : ListRequest :=
  { ListRequest.plain with
    startDate := some ⟨86400000000, some 0, by decide, DateTime.utc_lt⟩
    endDate := some ⟨0, some 0, DateTime.isDate_epoch, DateTime.utc_lt⟩ }

/-- Filters that are refused have no page at all, and an offset that cannot be sent has none that is empty. -/
theorem not_answered :
    (¬ ∃ pages, Followed (answer ReviewsService.asciiServer tiedReviews backwards) 1 pages) ∧
      answer ReviewsService.asciiServer tiedReviews onePerPage (2 ^ 63 + 1)
        = .error ⟨"DataError", "bigint out of range"⟩ := by
  have hrefused : answer ReviewsService.asciiServer tiedReviews backwards (0 + 1)
      = .error ⟨"ValidationFailedError", "start_date must not be after end_date."⟩ := by
    rw [answer_eq]
    rfl
  constructor
  · rintro ⟨pages, hpages⟩
    cases hpages with
    | last hanswer _ =>
        rw [hrefused] at hanswer
        cases hanswer
    | next hanswer _ _ =>
        rw [hrefused] at hanswer
        cases hanswer
  · rw [answer_eq]
    rfl

end ReviewsPage

end ReviewSignal
