import ReviewSignal.Repositories.ReviewReader

/-!
# Searching the reviews

`ReviewsService.listReviews` answers `GET /reviews`.  Its text search is meant literally, but the query goes
into a pattern of `ILIKE`, where three characters have a meaning of their own.

**`searchesLiterally_iff`**: a query is searched for as it stands, over every table and every request, if and
only if it has none of these characters, and no NUL.  Literally means that every request with the query that
would be answered without it is answered with the page of the rows that contain it, compared as the database
compares without regard to case (`Found`).

Why each of the four fails is in the second half: a percent sign and an underscore match what they are not, a
backslash takes the meaning of what follows it, and a NUL cannot be sent.

The dates of the request are checked before anything is sent, and their check is the subject of
`DateWindows`.
-/

namespace ReviewSignal

/-- `ReviewSummary` -/
structure ReviewSummary where
  id : ℕ
  rating : ℤ
  reviewText : Option String
  reviewerName : Option String
  createdAt : Instant
  analysisStatus : AnalysisStatus
  deriving DecidableEq, Repr

/-- `ReviewListPayload` -/
structure ReviewListPayload where
  items : List ReviewSummary
  page : ℕ
  pageSize : ℕ
  total : ℕ
  deriving DecidableEq, Repr

namespace ReviewsService

/-- `ReviewSummary.model_validate` -/
def summary (row : StoredReview) : ReviewSummary :=
  ⟨row.id, row.rating, row.reviewText, row.reviewerName, row.createdAt, row.analysisStatus⟩

/-- `list_reviews` -/
def listReviews (server : Server) (table : ReviewRows) (request : ListRequest) :
    Except Exn ReviewListPayload := do
  Windows.check request.startDate request.endDate
  let (rows, total) ← ReviewReader.listPage server table request
  return ⟨rows.map summary, request.page, request.pageSize, total⟩

/-! ## Literal search

The answer to a request, and what a literal search would answer. -/

/-- The request without its text. -/
def withoutText (request : ListRequest) : ListRequest := { request with q := none }

/-- The row has a text that contains the query, and meets the other filters. -/
def Found (server : Server) (filters : ReviewFilters) (row : StoredReview) : Prop :=
  (∀ q ∈ filters.q, ∃ text ∈ row.reviewText, Like.Contains server.folding q text)
    ∧ (∀ rating ∈ filters.rating, row.rating = rating)
    ∧ (∀ startDate ∈ filters.startDate, startDate.instant server.zone ≤ row.createdAt)
    ∧ (∀ endDate ∈ filters.endDate, row.createdAt ≤ endDate.instant server.zone)

instance (server : Server) (filters : ReviewFilters) : DecidablePred (Found server filters) :=
  fun _ => inferInstanceAs (Decidable (_ ∧ _ ∧ _ ∧ _))

/-- The page of the rows that meet a predicate, as the payload shows it. -/
def payloadOf (request : ListRequest) (rows : List StoredReview) : ReviewListPayload :=
  ⟨(((rows.insertionSort ReviewReader.Newer).drop ((request.page - 1) * request.pageSize)).take
    request.pageSize).map summary, request.page, request.pageSize, rows.length⟩

/-- Every request with the query that would be answered without it is answered with the page of the rows
that are found, and their number. -/
def SearchesLiterally (server : Server) (q : String) : Prop :=
  ∀ (table : ReviewRows) (request : ListRequest), request.q = some q →
    (∃ payload, listReviews server table (withoutText request) = .ok payload) →
    listReviews server table request = .ok
      (payloadOf request (table.reviews.filter (Found server request.toReviewFilters)))

variable {server : Server} {table : ReviewRows} {request : ListRequest} {row : StoredReview}
variable {q : String}

theorem listReviews_eq : listReviews server table request = (do
    Windows.check request.startDate request.endDate
    ReviewReader.sendText request.q
    ReviewReader.sendOffset ((request.page - 1) * request.pageSize)
    return payloadOf request
      (table.reviews.filter (ReviewReader.matched server request.toReviewFilters))) := by
  rw [listReviews, ReviewReader.listPage_eq]
  cases Windows.check request.startDate request.endDate <;>
    cases ReviewReader.sendText request.q <;>
    cases ReviewReader.sendOffset ((request.page - 1) * request.pageSize) <;> rfl

/-- A request that is answered passed the check of its window, and its parameters were sent. -/
theorem listReviews_ok {payload : ReviewListPayload} (h : listReviews server table request = .ok payload) :
    Windows.check request.startDate request.endDate = .ok () ∧
      ReviewReader.sendText request.q = .ok () ∧
      ReviewReader.sendOffset ((request.page - 1) * request.pageSize) = .ok () := by
  rw [listReviews_eq] at h
  cases hcheck : Windows.check request.startDate request.endDate with
  | error exc =>
      rw [hcheck] at h
      cases h
  | ok _ =>
      cases htext : ReviewReader.sendText request.q with
      | error exc =>
          rw [hcheck, htext] at h
          cases h
      | ok _ =>
          cases hoffset : ReviewReader.sendOffset ((request.page - 1) * request.pageSize) with
          | error exc =>
              rw [hcheck, htext, hoffset] at h
              cases h
          | ok _ => exact ⟨rfl, rfl, rfl⟩

/-- What answers a request without its text leaves only the text to send. -/
theorem listReviews_of_withoutText {payload : ReviewListPayload}
    (h : listReviews server table (withoutText request) = .ok payload) :
    listReviews server table request = (do
      ReviewReader.sendText request.q
      return payloadOf request
        (table.reviews.filter (ReviewReader.matched server request.toReviewFilters))) := by
  obtain ⟨hcheck, -, hoffset⟩ := listReviews_ok h
  rw [listReviews_eq, show Windows.check request.startDate request.endDate = .ok () from hcheck,
    show ReviewReader.sendOffset ((request.page - 1) * request.pageSize) = .ok () from hoffset]
  cases ReviewReader.sendText request.q <;> rfl

/-- A plain query finds what contains it. -/
theorem matched_eq_found (hq : request.q = some q) (hne : q ≠ "")
    (hplain : ∀ c ∈ q.toList, c ∉ Like.metacharacters) :
    ReviewReader.matched server request.toReviewFilters row
      = decide (Found server request.toReviewFilters row) := by
  have htext : ReviewReader.accepts (ReviewReader.textCondition server q row)
      = decide (∃ text ∈ row.reviewText, Like.Contains server.folding q text) := by
    rw [ReviewReader.textCondition]
    cases row.reviewText with
    | none => simp [ReviewReader.accepts]
    | some text => simp [Like.ilike_of_plain hplain, ReviewReader.accepts]
  rw [ReviewReader.matched_eq, hq, Bool.eq_iff_iff, decide_eq_true_eq, Found, hq]
  cases request.rating <;> cases request.startDate <;> cases request.endDate <;>
    simp [hne, htext, and_assoc]

/-! ## A text that is found without containing the query

For each character that has a meaning, a table of one row that tells the difference. -/

/-- One review, with the text. -/
def reviewWith (text : String) (h : '\x00' ∉ text.toList) : StoredReview where
  source := "google"
  rating := 5
  reviewText := some text
  reviewerName := none
  createdAt := 0
  updatedAt := 0
  ownerReplyText := none
  ownerReplyAt := none
  language := "en"
  rawPayload := .obj []
  analysisStatus := .pending
  id := 0
  sourceReviewId := "1"
  text_storable := by
    rintro _ hmem
    rwa [← Option.some.inj hmem]

/-- The table with this review alone. -/
def tableWith (text : String) (h : '\x00' ∉ text.toList) : ReviewRows where
  reviews := [reviewWith text h]
  ids_nodup := List.nodup_singleton 0

/-- A request for a query and nothing else. -/
def requestFor (q : String) : ListRequest := { ListRequest.plain with q := some q }

variable {text : String} {h : '\x00' ∉ text.toList}

theorem listReviews_requestFor (hq : '\x00' ∉ q.toList) :
    listReviews server (tableWith text h) (requestFor q) = .ok (payloadOf (requestFor q)
      ((tableWith text h).reviews.filter
        (ReviewReader.matched server (requestFor q).toReviewFilters))) := by
  rw [listReviews_eq, show (requestFor q).q = some q from rfl, ReviewReader.sendText_of_notMem hq]
  rfl

/-- What a literal search would make of the text decides what the pattern does. -/
theorem SearchesLiterally.accepts_eq (hsearch : SearchesLiterally server q) (hne : q ≠ "")
    (hq : '\x00' ∉ q.toList) (h : '\x00' ∉ text.toList) :
    ReviewReader.accepts (Like.ilike server.folding ("%" ++ q ++ "%") text)
      = decide (Like.Contains server.folding q text) := by
  have hanswer := hsearch (tableWith text h) (requestFor q) rfl ⟨_, rfl⟩
  rw [listReviews_requestFor hq, Except.ok.injEq] at hanswer
  have htotal := congrArg ReviewListPayload.total hanswer
  simp only [payloadOf, tableWith, List.filter_singleton] at htotal
  have hmatched : ReviewReader.matched server (requestFor q).toReviewFilters (reviewWith text h)
      = ReviewReader.accepts (Like.ilike server.folding ("%" ++ q ++ "%") text) := by
    rw [ReviewReader.matched_eq]
    simp [requestFor, ListRequest.plain, hne, ReviewReader.textCondition, reviewWith]
  have hfound : Found server (requestFor q).toReviewFilters (reviewWith text h)
      ↔ Like.Contains server.folding q text := by
    simp [Found, requestFor, ListRequest.plain, reviewWith]
  rw [hmatched] at htotal
  simp only [hfound] at htotal
  generalize ReviewReader.accepts _ = accepted at htotal ⊢
  cases accepted <;> by_cases hcontains : Like.Contains server.folding q text <;>
    simp_all

/-- A query the database cannot be sent finds nothing, not even that there is nothing to find. -/
theorem not_searchesLiterally_of_nul (hnul : '\x00' ∈ q.toList) : ¬ SearchesLiterally server q := by
  intro hsearch
  have hanswer := hsearch (tableWith "" (by simp)) (requestFor q) rfl ⟨_, rfl⟩
  rw [listReviews_eq, show (requestFor q).q = some q from rfl,
    ReviewReader.sendText_of_mem hnul] at hanswer
  cases hanswer

theorem SearchesLiterally.plain (hsearch : SearchesLiterally server q) (hne : q ≠ "")
    (hq : '\x00' ∉ q.toList) : ∀ c ∈ q.toList, c ∉ Like.metacharacters := by
  rw [← Like.containsPattern_iff server.folding q]
  intro text htext
  have h : '\x00' ∉ text.toList := by
    intro hmem
    rcases htext _ hmem with hmem | h | h
    · exact hq hmem
    · exact absurd h (by decide)
    · exact absurd h (by decide)
  obtain ⟨pattern, -, -, hilike⟩ := Like.ilike_around server.folding q
  have haccepts := hsearch.accepts_eq hne hq h
  rw [hilike] at haccepts ⊢
  exact congrArg Except.ok haccepts

/-- **Text search is literal** for a non-empty query if and only if the query has no character with a meaning
in patterns, and no NUL. -/
theorem searchesLiterally_iff (server : Server) (q : String) (hne : q ≠ "") :
    SearchesLiterally server q
      ↔ (∀ c ∈ q.toList, c ∉ Like.metacharacters) ∧ '\x00' ∉ q.toList := by
  constructor
  · intro hsearch
    have hq : '\x00' ∉ q.toList := fun hnul => not_searchesLiterally_of_nul hnul hsearch
    exact ⟨hsearch.plain hne hq, hq⟩
  · rintro ⟨hplain, hq⟩ table request hrequest ⟨payload, hanswered⟩
    rw [listReviews_of_withoutText hanswered, hrequest, ReviewReader.sendText_of_notMem hq]
    have hmatched : ReviewReader.matched server request.toReviewFilters
        = fun row => decide (Found server request.toReviewFilters row) :=
      funext fun row => matched_eq_found hrequest hne hplain
    rw [hmatched]
    rfl

/-- A server in the C locale, whose sessions are in UTC. -/
def asciiServer : Server := ⟨.ascii, 0⟩

theorem searchesLiterally_iff_slow : SearchesLiterally asciiServer "slow" :=
  (searchesLiterally_iff asciiServer "slow" (by decide)).mpr ⟨forall_mem_of_all (by decide), by decide⟩

/-- A search for an underscore finds every text there is. -/
theorem not_searchesLiterally_underscore : ¬ SearchesLiterally asciiServer "_" := by
  intro hsearch
  exact absurd (hsearch.plain (by decide) (by decide) '_' (by decide)) (by decide)

end ReviewsService

end ReviewSignal
