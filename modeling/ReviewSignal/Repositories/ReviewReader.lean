import ReviewSignal.Db.Dashboard
import ReviewSignal.Foundations.Meets
import ReviewSignal.Services.Windows
import Mathlib.Data.List.Sort
import Mathlib.Algebra.Field.Rat
import Mathlib.Algebra.GroupWithZero.Nat

/-!
# Reading reviews

`ReviewReader.listPage` counts the rows that meet every condition of a request and reads one page of them;
`countAndAverage` and `dailyTrend` aggregate the rows of a window.

A condition can raise, as `ILIKE` can, and `select` raises with it.  A parameter can be refused before the
statement is carried out: a text with a NUL (`sendText`), and an offset that is no `bigint` (`sendOffset`).

`listPage_eq` is what is left of this once the parameters are sent: the rows that match, in order, cut.  The
pattern around a query never raises (`textCondition_ok`), so neither does the `WHERE` clause.

The order of the list is total, by `created_at` and then by id, and a page is a cut of the sorted rows.
-/

namespace ReviewSignal

/-- The query parameters that filter the list. -/
structure ReviewFilters where
  q : Option String := none
  rating : Option ℤ := none
  startDate : Option DateTime := none
  endDate : Option DateTime := none
  deriving DecidableEq

/-- The query parameters of the list, with the bounds the route declares. -/
structure ListRequest extends ReviewFilters where
  page : ℕ := 1
  pageSize : ℕ := 20
  one_le_page : 1 ≤ page := by decide
  one_le_pageSize : 1 ≤ pageSize := by decide
  pageSize_le : pageSize ≤ 100 := by decide
  rating_range : ∀ n ∈ rating, 1 ≤ n ∧ n ≤ 5 := by decide
  deriving DecidableEq

/-- The request without parameters. -/
def ListRequest.plain : ListRequest where
  q := none
  rating := none
  startDate := none
  endDate := none
  rating_range := nofun

/-- A row of `daily_trend`: the day, its reviews and their average. -/
structure TrendRow where
  day : ℤ
  reviewCount : ℕ
  averageRating : Option ℚ
  deriving DecidableEq, Repr

namespace ReviewReader

/-- A condition of a `WHERE` clause; of an unknown one it selects no row. -/
abbrev Condition := StoredReview → Except Exn Bool

/-- The rows that meet every condition. -/
def select (reviews : List StoredReview) (conditions : List Condition) :
    Except Exn (List StoredReview) :=
  reviews.filterM fun row => conditions.allM (· row)

/-- `Review.review_text.ilike(f"%{q}%")` -/
def textCondition (server : Server) (q : String) : Condition := fun row =>
  match row.reviewText with
  | none => .ok false
  | some text => Like.ilike server.folding ("%" ++ q ++ "%") text

/-- The conditions `list_page` collects; an empty `q` is no condition. -/
def conditions (server : Server) (filters : ReviewFilters) : List Condition :=
  ((filters.q.filter (· ≠ "")).toList.map (textCondition server))
    ++ (filters.rating.toList.map fun rating row => .ok (row.rating = rating))
    ++ (filters.startDate.toList.map fun startDate row =>
      .ok (startDate.instant server.zone ≤ row.createdAt))
    ++ (filters.endDate.toList.map fun endDate row =>
      .ok (row.createdAt ≤ endDate.instant server.zone))

/-- `ORDER BY created_at DESC, id DESC` -/
def Newer (a b : StoredReview) : Prop :=
  b.createdAt < a.createdAt ∨ a.createdAt = b.createdAt ∧ b.id ≤ a.id

instance : DecidableRel Newer := fun _ _ => inferInstanceAs (Decidable (_ ∨ _ ∧ _))

/-- A statement is sent with its text parameters, none of which may hold a NUL. -/
def sendText (q : Option String) : Except Exn Unit :=
  if q.any ('\x00' ∈ ·.toList) then
    .error ⟨"DataError", "PostgreSQL text fields cannot contain NUL (0x00) bytes"⟩
  else .ok ()

/-- An offset is a `bigint`. -/
def sendOffset (offset : ℕ) : Except Exn Unit :=
  if 2 ^ 63 ≤ offset then .error ⟨"DataError", "bigint out of range"⟩ else .ok ()

/-- `list_page` -/
def listPage (server : Server) (table : ReviewRows) (request : ListRequest) :
    Except Exn (List StoredReview × ℕ) := do
  let offset := (request.page - 1) * request.pageSize
  sendText request.q
  let counted ← select table.reviews (conditions server request.toReviewFilters)
  let total := counted.length
  sendOffset offset
  let selected ← select table.reviews (conditions server request.toReviewFilters)
  let rows := ((selected.insertionSort Newer).drop offset).take request.pageSize
  return (rows, total)

/-! ## Aggregates over a window

Over all rows of the window, and over those of each day. -/

/-- `created_at >= start_date AND created_at <= end_date` -/
def inWindow (server : Server) (window : Window) (row : StoredReview) : Bool :=
  window.startDate.instant server.zone ≤ row.createdAt
    ∧ row.createdAt ≤ window.endDate.instant server.zone

/-- `avg(rating)`, which is null of no rows. -/
def average (rows : List StoredReview) : Option ℚ :=
  if rows = [] then none else some ((rows.map fun row => (row.rating : ℚ)).sum / rows.length)

/-- `count_and_average` -/
def countAndAverage (server : Server) (table : ReviewRows) (window : Window) : ℕ × Option ℚ :=
  let rows := table.reviews.filter (inWindow server window)
  (rows.length, average rows)

/-- `date_trunc('day', created_at)` as the date it shows: the days since the epoch in the session's zone. -/
def day (server : Server) (row : StoredReview) : ℤ := (row.createdAt + server.zone) / 86400000000

/-- `daily_trend` -/
def dailyTrend (server : Server) (table : ReviewRows) (window : Window) : List TrendRow :=
  let rows := table.reviews.filter (inWindow server window)
  let days := (rows.map (day server)).dedup.insertionSort (· ≤ ·)
  days.map fun date =>
    let group := rows.filter (day server · = date)
    ⟨date, group.length, average group⟩

/-! ## What a page holds

The conditions as predicates, and the list without them. -/

/-- A clause holds of a row when its condition does. -/
def accepts : Except Exn Bool → Bool
  | .ok accepted => accepted
  | .error _ => false

/-- The row meets every condition of the request. -/
def matched (server : Server) (filters : ReviewFilters) (row : StoredReview) : Bool :=
  (conditions server filters).all fun condition => accepts (condition row)

variable {server : Server} {table : ReviewRows} {filters : ReviewFilters} {request : ListRequest}
variable {row : StoredReview} {q : String}

/-- The pattern around a query never raises. -/
theorem textCondition_ok (server : Server) (q : String) (row : StoredReview) :
    ∃ accepted, textCondition server q row = .ok accepted := by
  rw [textCondition]
  cases row.reviewText with
  | none => exact ⟨false, rfl⟩
  | some text =>
      obtain ⟨pattern, -, -, hilike⟩ := Like.ilike_around server.folding q
      exact ⟨_, hilike text⟩

theorem condition_ok : ∀ condition ∈ conditions server filters,
    condition row = .ok (accepts (condition row)) := by
  intro condition hmem
  have hok : ∃ accepted, condition row = .ok accepted := by
    simp only [conditions, List.mem_append, List.mem_map, Option.mem_toList] at hmem
    rcases hmem with ((⟨q, -, rfl⟩ | ⟨rating, -, rfl⟩) | ⟨startDate, -, rfl⟩) | ⟨endDate, -, rfl⟩
    · exact textCondition_ok server q row
    · exact ⟨_, rfl⟩
    · exact ⟨_, rfl⟩
    · exact ⟨_, rfl⟩
  obtain ⟨accepted, h⟩ := hok
  rw [h]
  rfl

/-- The `WHERE` clause is a filter. -/
theorem select_conditions (reviews : List StoredReview) :
    select reviews (conditions server filters) = .ok (reviews.filter (matched server filters)) := by
  refine filterM_ok fun row _ => ?_
  rw [allM_ok fun condition hmem => condition_ok condition hmem]
  rfl

theorem matched_eq : matched server filters row =
    ((filters.q.filter (· ≠ "")).all (fun q => accepts (textCondition server q row))
      && filters.rating.all (row.rating = ·)
      && filters.startDate.all (·.instant server.zone ≤ row.createdAt)
      && filters.endDate.all (row.createdAt ≤ ·.instant server.zone)) := by
  simp only [matched, conditions, List.all_append, List.all_map]
  cases filters.q.filter (· ≠ "") <;> cases filters.rating <;> cases filters.startDate <;>
    cases filters.endDate <;> simp [accepts]

/-- **The list page**: once its parameters are sent, it is the matching rows in order, cut. -/
theorem listPage_eq : listPage server table request = (do
    sendText request.q
    sendOffset ((request.page - 1) * request.pageSize)
    let rows := table.reviews.filter (matched server request.toReviewFilters)
    return (((rows.insertionSort Newer).drop ((request.page - 1) * request.pageSize)).take
      request.pageSize, rows.length)) := by
  rw [listPage, select_conditions]
  rfl

theorem sendText_of_mem (h : '\x00' ∈ q.toList) :
    sendText (some q) = .error ⟨"DataError", "PostgreSQL text fields cannot contain NUL (0x00) bytes"⟩ := by
  simp [sendText, h]

theorem sendText_of_notMem (h : '\x00' ∉ q.toList) : sendText (some q) = .ok () := by
  simp [sendText, h]

end ReviewReader

end ReviewSignal
