import ReviewSignal.Api.ReviewParams
import ReviewSignal.Core.SessionTokens
import Mathlib.Data.Rat.Cast.Order

/-!
# The client of the dashboard

`getReviews` of `lib/api.ts` puts a page, its size and the filters into the query of a request.  The numbers
are those of JavaScript: `JavaScript` is how they are read, written and added, and `Exact` what is known of it
for the natural numbers a double can count to.

**`texts_reviewsPath`**: the route finds in the query what was given, whatever is in the filters.  A filter
that is empty is not sent, and the route finds none; the page and its size are always sent, and found as the
numerals they were written as.

That `Exact` can be met is shown by `naturals`, which knows natural numbers only.  What a double does beyond
2⁵³ is left open.
-/

namespace ReviewSignal

/-- A number of JavaScript. -/
inductive JsNumber
  | nan
  | infinite (negative : Bool)
  | finite (value : ℚ)
  deriving DecidableEq

namespace JsNumber

/-- `if (number)` -/
def truthy : JsNumber → Bool
  | nan => false
  | infinite _ => true
  | finite value => value ≠ 0

/-- `number || 1` -/
def orOne (number : JsNumber) : JsNumber := if number.truthy then number else finite 1

/-- `Math.max(1, number)` -/
def maxOne : JsNumber → JsNumber
  | nan => nan
  | infinite negative => if negative then finite 1 else infinite false
  | finite value => finite (max 1 value)

/-- `number < n` -/
def lt (number : JsNumber) (n : ℕ) : Bool :=
  match number with
  | nan => false
  | infinite negative => negative
  | finite value => value < n

/-- `number > 1` -/
def gtOne : JsNumber → Bool
  | nan => false
  | infinite negative => !negative
  | finite value => 1 < value

theorem gtOne_natCast (n : ℕ) : (finite n).gtOne = decide (1 < n) := by
  rw [gtOne, decide_eq_decide]
  exact Nat.one_lt_cast

theorem lt_natCast (m n : ℕ) : (finite m).lt n = decide (m < n) := by
  rw [lt, decide_eq_decide]
  exact Nat.cast_lt

end JsNumber

/-- How numbers are read, written and added. -/
structure JavaScript where
  number : String → JsNumber
  string : JsNumber → String
  round : ℚ → JsNumber

namespace JavaScript

/-- `number + n` -/
def add (js : JavaScript) (number : JsNumber) (n : ℤ) : JsNumber :=
  match number with
  | .finite value => js.round (value + n)
  | other => other

/-- It is exact for the natural numbers up to the largest it counts to. -/
structure Exact (js : JavaScript) : Prop where
  number : ∀ n : ℕ, n ≤ 2 ^ 53 → js.number (toString n) = .finite n
  string : ∀ n : ℕ, n ≤ 2 ^ 53 → js.string (.finite n) = toString n
  round : ∀ n : ℕ, n ≤ 2 ^ 53 → js.round n = .finite n

/-- Natural numbers only, read as Python reads them. -/
def naturals : JavaScript where
  number text := ((Python.parseInt Auth.asciiUnicode text).map fun n => .finite n).getD .nan
  string
    | .nan => "NaN"
    | .infinite negative => if negative then "-Infinity" else "Infinity"
    | .finite value => Python.str value.num
  round := .finite

/-- A numeral of a number a double can count to is short. -/
theorem length_toDigits_le {n : ℕ} (h : n ≤ 2 ^ 53) : (Nat.toDigits 10 n).length ≤ 4300 := by
  have hlength : (Nat.toDigits 10 n).length ≤ 16 :=
    (Nat.length_toDigits_le_iff (by decide) (by decide)).mpr (by omega)
  omega

theorem exact_naturals : naturals.Exact where
  number n h := by
    have hread := @Python.parseInt_str _ Auth.knowsAscii_asciiUnicode n (length_toDigits_le h)
    have hstr : Python.str n = toString n := rfl
    rw [hstr] at hread
    show ((Python.parseInt Auth.asciiUnicode (toString n)).map _).getD JsNumber.nan = _
    rw [hread]
    simp
  string n _ := by
    show Python.str (n : ℚ).num = toString n
    rw [Rat.num_natCast]
    rfl
  round n _ := rfl

variable {js : JavaScript} {n : ℕ}

theorem add_one (hjs : js.Exact) (h : n + 1 ≤ 2 ^ 53) : js.add (.finite n) 1 = .finite (n + 1 : ℕ) := by
  rw [add, ← hjs.round (n + 1) h, Nat.cast_add_one, Int.cast_one]

theorem sub_one (hjs : js.Exact) (h : n ≤ 2 ^ 53) : js.add (.finite (n + 1 : ℕ)) (-1) = .finite n := by
  rw [add, ← hjs.round n h, Nat.cast_add_one, Int.cast_neg, Int.cast_one, add_neg_cancel_right]

end JavaScript

namespace WebClient

/-- `ReviewFilters` -/
structure Filters where
  q : Option String
  rating : Option JsNumber
  startDate : Option String
  endDate : Option String

/-- A text that is truthy: `if (text)` -/
def truthyText (text : Option String) : Option String := text.filter (· ≠ "")

/-- The parameters `getReviews` sets. -/
def reviewsParams (js : JavaScript) (page pageSize : JsNumber) (filters : Filters) :
    List (String × Option String) :=
  [("page", some (js.string page)), ("page_size", some (js.string pageSize)),
    ("q", truthyText filters.q), ("rating", (filters.rating.filter (·.truthy)).map js.string),
    ("start_date", truthyText filters.startDate), ("end_date", truthyText filters.endDate)]

/-- The path `getReviews` asks for. -/
def reviewsPath (js : JavaScript) (page pageSize : JsNumber) (filters : Filters) : String :=
  "/reviews" ++ "?" ++ FormUrlEncoded.serialize FormUrlEncoded.urlSearchParams
    (FormUrlEncoded.present (reviewsParams js page pageSize filters))

/-- **The route finds what was given**, and takes what is empty for absent. -/
theorem texts_reviewsPath (js : JavaScript) (page pageSize : JsNumber) (filters : Filters) :
    ReviewParams.Texts.ofQuery (FormUrlEncoded.query (reviewsPath js page pageSize filters)) =
      { page := some (js.string page)
        pageSize := some (js.string pageSize)
        q := truthyText filters.q
        rating := (filters.rating.filter (·.truthy)).map js.string
        startDate := truthyText filters.startDate
        endDate := truthyText filters.endDate } := by
  have hnodup : ((reviewsParams js page pageSize filters).map (·.1)).Nodup := by
    show ["page", "page_size", "q", "rating", "start_date", "end_date"].Nodup
    decide
  have hvalue {name : String} {value : Option String}
      (h : (name, value) ∈ reviewsParams js page pageSize filters) :=
    FormUrlEncoded.lastValue_present hnodup h
  rw [reviewsPath, FormUrlEncoded.query_append (forall_mem_of_all (by decide)), ReviewParams.Texts.ofQuery,
    FormUrlEncoded.parse_serialize]
  simp only [ReviewParams.Texts.mk.injEq]
  refine ⟨hvalue ?_, hvalue ?_, hvalue ?_, hvalue ?_, hvalue ?_, hvalue ?_⟩ <;> simp [reviewsParams]

end WebClient

end ReviewSignal
