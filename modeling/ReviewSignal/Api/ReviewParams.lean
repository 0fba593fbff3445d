import ReviewSignal.Foundations.FormUrlEncoded
import ReviewSignal.Services.Reviews

/-!
# The route of the review list

`GET /reviews` with the text of its query: each parameter is read from its text and checked against the
bounds the route declares; if one is refused the answer is a validation error that tells all of them, else
the service answers.

The texts of numbers and dates are read by pydantic, which is a parameter (`Pydantic`).  What is used of it is
that it reads the numerals the front end writes (`ReadsNumerals`); for anything else it may read or refuse
what it likes.

A parameter that is left out has its default, which passes its own check (`Bounded`), and the numbers that are
read carry their bounds with them.  So the service never sees a page or a page size out of range, and no
theorem about it has to ask.
-/

namespace ReviewSignal

/-- How pydantic reads texts, or the message it refuses one with. -/
structure Pydantic where
  int : String → Except String ℤ
  datetime : String → Except String DateTime

/-- It reads a numeral. -/
def Pydantic.ReadsNumerals (pydantic : Pydantic) : Prop :=
  ∀ n : ℕ, n ≤ 2 ^ 53 → pydantic.int (toString n) = .ok n

/-- An entry of `exc.errors()`. -/
structure ParamError where
  loc : List String
  msg : String
  deriving DecidableEq, Repr

/-- `_summarize` -/
def summarizeErrors (errors : List ParamError) : String :=
  let parts := errors.map fun err =>
    let location := ".".intercalate (err.loc.filter (· ≠ "body"))
    if location ≠ "" then s!"{location}: {err.msg}" else err.msg
  let summary := "; ".intercalate parts
  if summary ≠ "" then summary else "Request validation failed."

namespace ReviewParams

/-- The texts of the parameters that are in a query. -/
structure Texts where
  page : Option String := none
  pageSize : Option String := none
  q : Option String := none
  rating : Option String := none
  startDate : Option String := none
  endDate : Option String := none
  deriving DecidableEq, Repr

/-- What is in a query. -/
def Texts.ofQuery (query : String) : Texts :=
  let pairs := FormUrlEncoded.parse query
  { page := FormUrlEncoded.lastValue pairs "page"
    pageSize := FormUrlEncoded.lastValue pairs "page_size"
    q := FormUrlEncoded.lastValue pairs "q"
    rating := FormUrlEncoded.lastValue pairs "rating"
    startDate := FormUrlEncoded.lastValue pairs "start_date"
    endDate := FormUrlEncoded.lastValue pairs "end_date" }

/-- A number within the bounds of its parameter. -/
structure Bounded (low : ℤ) (high : Option ℤ) where
  value : ℤ
  le_value : low ≤ value
  value_le : ∀ h ∈ high, value ≤ h

theorem no_bound (n : ℤ) : ∀ h ∈ (none : Option ℤ), n ≤ h := by simp

theorem one_le_twenty : (1 : ℤ) ≤ 20 := by decide

theorem twenty_le : ∀ h ∈ some (100 : ℤ), 20 ≤ h := by decide

/-- The page and the size of a request that gives none. -/
def defaultPage : Bounded 1 none := ⟨1, Int.le_refl 1, no_bound 1⟩

def defaultPageSize : Bounded 1 (some 100) := ⟨20, one_le_twenty, twenty_le⟩

/-- `Annotated[int, Query(ge=low, le=high)]` -/
def boundedInt (pydantic : Pydantic) (low : ℤ) (high : Option ℤ) (text : String) :
    Except String (Bounded low high) := do
  let n ← pydantic.int text
  if hlow : low ≤ n then
    if hhigh : ∀ h ∈ high, n ≤ h then return ⟨n, hlow, hhigh⟩
    else .error s!"Input should be less than or equal to {high.getD 0}"
  else .error s!"Input should be greater than or equal to {low}"

theorem Bounded.one_le_toNat {high : Option ℤ} (n : Bounded 1 high) : 1 ≤ n.value.toNat := by
  have hlow := n.le_value
  omega

theorem Bounded.toNat_le (n : Bounded 1 (some 100)) : n.value.toNat ≤ 100 := by
  have hhigh := n.value_le 100 rfl
  omega

theorem within_range (rating : Option (Bounded 1 (some 5))) :
    ∀ n ∈ rating.map (·.value), 1 ≤ n ∧ n ≤ 5 := by
  intro n hn
  obtain ⟨rating, -, rfl⟩ := Option.map_eq_some_iff.mp hn
  exact ⟨rating.le_value, rating.value_le 5 rfl⟩

/-- A parameter that may be left out. -/
def optional {α : Type} (read : String → Except String α) (text : Option String) :
    Except String (Option α) :=
  match text with
  | none => .ok none
  | some text => some <$> read text

/-- The entry of a parameter that is refused. -/
def refusal {α : Type} (name : String) : Except String α → List ParamError
  | .error msg => [⟨["query", name], msg⟩]
  | .ok _ => []

/-- The parameters as `list_reviews` declares them. -/
def Texts.read (pydantic : Pydantic) (texts : Texts) : Except (List ParamError) ListRequest :=
  let page := optional (boundedInt pydantic 1 none) texts.page
  let pageSize := optional (boundedInt pydantic 1 (some 100)) texts.pageSize
  let rating := optional (boundedInt pydantic 1 (some 5)) texts.rating
  let startDate := optional pydantic.datetime texts.startDate
  let endDate := optional pydantic.datetime texts.endDate
  match page, pageSize, rating, startDate, endDate with
  | .ok page, .ok pageSize, .ok rating, .ok startDate, .ok endDate => .ok
      { page := (page.getD defaultPage).value.toNat
        pageSize := (pageSize.getD defaultPageSize).value.toNat
        q := texts.q
        rating := rating.map (·.value)
        startDate := startDate
        endDate := endDate
        one_le_page := (page.getD defaultPage).one_le_toNat
        one_le_pageSize := (pageSize.getD defaultPageSize).one_le_toNat
        pageSize_le := (pageSize.getD defaultPageSize).toNat_le
        rating_range := within_range rating }
  | page, pageSize, rating, startDate, endDate => .error
      (refusal "page" page ++ refusal "page_size" pageSize ++ refusal "rating" rating
        ++ refusal "start_date" startDate ++ refusal "end_date" endDate)

/-- `GET /reviews` -/
def listReviews (pydantic : Pydantic) (server : Server) (table : ReviewRows) (query : String) :
    Except Exn ReviewListPayload :=
  match (Texts.ofQuery query).read pydantic with
  | .error errors => .error ⟨"RequestValidationError", summarizeErrors errors⟩
  | .ok request => ReviewsService.listReviews server table request

variable {pydantic : Pydantic} {texts : Texts} {request : ListRequest}

theorem optional_none {α : Type} (read : String → Except String α) : optional read none = .ok none := rfl

/-- A number of a page is read for any request that is accepted without one. -/
theorem read_onPage (hpydantic : pydantic.ReadsNumerals)
    (hrequest : ({ texts with page := none, pageSize := none } : Texts).read pydantic = .ok request)
    {page pageSize : ℕ} (hpage : 1 ≤ page ∧ page ≤ 2 ^ 53) (hpageSize : 1 ≤ pageSize ∧ pageSize ≤ 100) :
    ∃ request', ({ texts with page := some (toString page), pageSize := some (toString pageSize) }
      : Texts).read pydantic = .ok request' ∧ request'.toReviewFilters = request.toReviewFilters ∧
        request'.page = page ∧ request'.pageSize = pageSize := by
  have hbounded {low : ℤ} {high : Option ℤ} {n : ℕ} (hn : n ≤ 2 ^ 53) (hlow : low ≤ n)
      (hhigh : ∀ h ∈ high, (n : ℤ) ≤ h) : optional (boundedInt pydantic low high) (some (toString n))
        = .ok (some ⟨n, hlow, hhigh⟩) := by
    rw [optional, boundedInt, hpydantic n hn]
    simp only [bind, Except.bind, dif_pos hlow]
    rw [dif_pos hhigh]
    rfl
  have hlower : (1 : ℤ) ≤ page := by exact_mod_cast hpage.1
  have hsize : (1 : ℤ) ≤ pageSize := by exact_mod_cast hpageSize.1
  have hlargest : ∀ h ∈ some (100 : ℤ), (pageSize : ℤ) ≤ h := by
    intro h hh
    rw [← Option.mem_some.mp hh]
    exact_mod_cast hpageSize.2
  unfold Texts.read at hrequest ⊢
  rw [optional_none, optional_none] at hrequest
  rw [@hbounded 1 none page hpage.2 hlower (no_bound page), hbounded (by omega) hsize hlargest]
  -- the other parameters are read as they were
  cases hrating : optional (boundedInt pydantic 1 (some 5)) texts.rating <;>
    cases hstart : optional pydantic.datetime texts.startDate <;>
    cases hend : optional pydantic.datetime texts.endDate <;>
    simp only [hrating, hstart, hend] at hrequest ⊢ <;>
    cases hrequest
  exact ⟨_, rfl, rfl, rfl, rfl⟩

/-- A request without a page and a size has the defaults. -/
theorem read_defaults (hpage : texts.page = none) (hpageSize : texts.pageSize = none)
    (hrequest : texts.read pydantic = .ok request) : request.page = 1 ∧ request.pageSize = 20 := by
  unfold Texts.read at hrequest
  rw [hpage, hpageSize] at hrequest
  cases hrating : optional (boundedInt pydantic 1 (some 5)) texts.rating <;>
    cases hstart : optional pydantic.datetime texts.startDate <;>
    cases hend : optional pydantic.datetime texts.endDate <;>
    simp only [hrating, hstart, hend, optional_none] at hrequest <;>
    cases hrequest
  exact ⟨rfl, rfl⟩

end ReviewParams

end ReviewSignal
