import ReviewSignal.Services.Reviews
import ReviewSignal.Services.Trends

/-!
# The windows requests are answered for

Four services take a start and an end, each of which may be absent and may lack an offset.  An answered
request should be for a window that does not end before it starts, and a refused one refused as such.

The four check and default the ends each in its own way:

* the list of reviews and the overview compare two dates that are both given, and Python refuses to compare
  one with an offset to one without;
* the overview and the two histories fill in a missing end from the clock and a missing start from the end;
  the histories compare nothing.

**`windowsValidated_iff`** says for each of them on exactly which dates the window is validated: an answer is
for a window in order, and a refusal is a `ValidationFailedError`.  The conditions are on the two dates and
the clock (`Ordered`, `Comparable`, `Started`, `InRange`).  `not_windowValidated` is a window that the ratings
are answered for backwards; of the same dates the other two services raise a `TypeError`.

Whether a parameter has the form of a date is pydantic's matter and settled before.
-/

namespace ReviewSignal

namespace Windows

/-- A start, when there is one, is not after an end, when there is one. -/
def Ordered (zone : ℤ) (startDate endDate : Option DateTime) : Prop :=
  ∀ s ∈ startDate, ∀ e ∈ endDate, s.instant zone ≤ e.instant zone

/-- `ValidationFailedError` -/
def IsValidationFailed (exc : Exn) : Prop := exc.typeName = "ValidationFailedError"

/-- No two dates of which one has an offset. -/
def Comparable (startDate endDate : Option DateTime) : Prop :=
  ∀ s ∈ startDate, ∀ e ∈ endDate, ¬ DateTime.Mixed s e

/-- A start without an end is not in the future. -/
def Started (zone : ℤ) (now : CurrentTime) (startDate endDate : Option DateTime) : Prop :=
  ∀ s ∈ startDate, endDate = none → s.instant zone ≤ now.instant

/-- An end without a start is late enough for a window before it. -/
def InRange (duration : ℤ) (startDate endDate : Option DateTime) : Prop :=
  startDate = none → ∀ e ∈ endDate, Python.isDate (e.wall - duration) = true

variable {zone duration : ℤ} {now : CurrentTime} {startDate endDate : Option DateTime}

/-- A shorter window starts later. -/
theorem InRange.mono {shorter : ℤ} (h : InRange duration startDate endDate) (hshorter : 0 ≤ shorter)
    (hle : shorter ≤ duration) : InRange shorter startDate endDate := by
  intro hnone e he
  have hdate := h hnone e he
  have hwall := e.wall_isDate
  simp only [Python.isDate, Bool.decide_and, Bool.and_eq_true, decide_eq_true_eq] at hdate hwall ⊢
  omega

theorem ordered_none_left (zone : ℤ) (endDate : Option DateTime) : Ordered zone none endDate := by
  simp [Ordered]

theorem ordered_none_right (zone : ℤ) (startDate : Option DateTime) : Ordered zone startDate none := by
  simp [Ordered]

theorem ordered_some {s e : DateTime} :
    Ordered zone (some s) (some e) ↔ s.instant zone ≤ e.instant zone := by simp [Ordered]

theorem check_some (s e : DateTime) : check (some s) (some e) = (do
    if ← s.after e then
      .error ⟨"ValidationFailedError", "start_date must not be after end_date."⟩
    else .ok ()) := rfl

/-- Of comparable dates, the check lets through exactly those in order. -/
theorem check_of_comparable (h : Comparable startDate endDate) (zone : ℤ) :
    (check startDate endDate = .ok () ∧ Ordered zone startDate endDate) ∨
      ∃ exc, check startDate endDate = .error exc ∧ IsValidationFailed exc ∧
        ¬ Ordered zone startDate endDate := by
  cases startDate with
  | none => exact .inl ⟨rfl, ordered_none_left zone endDate⟩
  | some s =>
      cases endDate with
      | none => exact .inl ⟨rfl, ordered_none_right zone _⟩
      | some e =>
          have hafter := DateTime.after_of_not_mixed (h s rfl e rfl) zone
          rw [check_some, hafter]
          by_cases hlt : e.instant zone < s.instant zone
          · right
            refine ⟨⟨"ValidationFailedError", "start_date must not be after end_date."⟩, ?_, rfl, ?_⟩
            · rw [decide_eq_true hlt]
              rfl
            · rw [ordered_some]
              exact not_le.mpr hlt
          · left
            refine ⟨?_, ordered_some.mpr (not_lt.mp hlt)⟩
            rw [decide_eq_false hlt]
            rfl

/-- And of others it raises a `TypeError`. -/
theorem check_of_not_comparable (h : ¬ Comparable startDate endDate) :
    ∃ exc, check startDate endDate = .error exc ∧ ¬ IsValidationFailed exc := by
  simp only [Comparable, not_forall, not_not] at h
  obtain ⟨s, rfl, e, rfl, hmixed⟩ := h
  refine ⟨⟨"TypeError", "can't compare offset-naive and offset-aware datetimes"⟩, ?_, ?_⟩
  · rw [check_some, DateTime.after_of_mixed hmixed]
    rfl
  · simp [IsValidationFailed]

/-- **The check** leaves comparable dates that are in order. -/
theorem meets_check (zone : ℤ) {next : Prop} :
    Meets (fun _ => next) IsValidationFailed (check startDate endDate)
      ↔ Comparable startDate endDate ∧ (Ordered zone startDate endDate → next) := by
  by_cases hcomparable : Comparable startDate endDate
  · rcases check_of_comparable hcomparable zone with ⟨hcheck, hordered⟩ | ⟨exc, hcheck, hexc, hordered⟩
    · rw [hcheck, meets_ok]
      exact ⟨fun h => ⟨hcomparable, fun _ => h⟩, fun h => h.2 hordered⟩
    · rw [hcheck, meets_error]
      exact ⟨fun _ => ⟨hcomparable, fun h => absurd h hordered⟩, fun _ => hexc⟩
  · obtain ⟨exc, hcheck, hexc⟩ := check_of_not_comparable hcomparable
    rw [hcheck, meets_error]
    exact ⟨fun h => absurd h hexc, fun h => absurd h.1 hcomparable⟩

/-- The window does not end before it starts. -/
def Forward (zone : ℤ) (startDate endDate : DateTime) : Prop :=
  startDate.instant zone ≤ endDate.instant zone

/-- A given start is taken as it is. -/
theorem meets_resolve_some {s : DateTime} :
    Meets (fun window => Forward zone window.startDate window.endDate) IsValidationFailed
        (resolve duration (.now now) (some s) endDate)
      ↔ Ordered zone (some s) endDate ∧ Started zone now (some s) endDate := by
  cases endDate <;> simp [resolve, Forward, Ordered, Started]

/-- A missing one is filled in, if it can. -/
theorem meets_sub {e : DateTime} (hduration : 0 ≤ duration) :
    Meets (fun startDate => Forward zone startDate e) IsValidationFailed (e.sub duration)
      ↔ Python.isDate (e.wall - duration) = true := by
  by_cases hdate : Python.isDate (e.wall - duration) = true
  · obtain ⟨earlier, hsub, hwall, hoffset⟩ := DateTime.sub_of_isDate hdate
    have hinstant := DateTime.instant_of_wall hwall hoffset zone
    refine iff_of_true ?_ hdate
    rw [hsub, meets_ok, Forward, hinstant]
    omega
  · refine iff_of_false ?_ hdate
    rw [DateTime.sub_of_not_isDate hdate, meets_error, IsValidationFailed]
    simp

/-- **The defaults**: they give a window in order where the dates are in order with each other and with the
clock, and the start is a date. -/
theorem meets_resolve (hduration : 0 ≤ duration) (hle : duration ≤ 62135596800000000) :
    Meets (fun window => Forward zone window.startDate window.endDate) IsValidationFailed
        (resolve duration (.now now) startDate endDate)
      ↔ Ordered zone startDate endDate ∧ Started zone now startDate endDate ∧
        InRange duration startDate endDate := by
  cases startDate with
  | some s =>
      rw [meets_resolve_some]
      simp [InRange]
  | none =>
      have hresolve : resolve duration (.now now) none endDate
          = (fun startDate => Window.mk startDate (endDate.getD (.now now)))
            <$> (endDate.getD (.now now)).sub duration := rfl
      rw [hresolve, meets_map, meets_sub hduration]
      cases endDate with
      | none =>
          refine iff_of_true (DateTime.isDate_sub now hduration hle) ⟨ordered_none_left zone _, ?_, ?_⟩
          · simp [Started]
          · simp [InRange]
      | some e => simp [ordered_none_left, Started, InRange]

end Windows

open Windows

variable {server : Server} {now : CurrentTime} {startDate endDate : Option DateTime}

/-! ## The reviews

The list takes its dates as they are, so what is left to check of a request that is answered without them is
the comparison. -/

namespace ReviewsService

/-- The request without its dates. -/
def withoutWindow (request : ListRequest) : ListRequest :=
  { request with startDate := none, endDate := none }

/-- Of a request that is answered without its dates, the dates are validated. -/
def WindowValidated (server : Server) (startDate endDate : Option DateTime) : Prop :=
  ∀ (table : ReviewRows) (request : ListRequest), request.startDate = startDate →
    request.endDate = endDate →
    (∃ payload, listReviews server table (withoutWindow request) = .ok payload) →
    Meets (fun _ => Ordered server.zone startDate endDate) IsValidationFailed
      (listReviews server table request)

/-- A request for the dates and nothing else. -/
def requestBetween (startDate endDate : Option DateTime) : ListRequest :=
  { ListRequest.plain with startDate := startDate, endDate := endDate }

/-- What answers a request without its dates leaves only the dates to check. -/
theorem listReviews_of_withoutWindow {table : ReviewRows} {request : ListRequest}
    {payload : ReviewListPayload} (h : listReviews server table (withoutWindow request) = .ok payload) :
    ∃ payload', listReviews server table request
      = (fun _ => payload') <$> check request.startDate request.endDate := by
  obtain ⟨-, htext, hoffset⟩ := listReviews_ok h
  rw [listReviews_eq, show ReviewReader.sendText request.q = .ok () from htext,
    show ReviewReader.sendOffset ((request.page - 1) * request.pageSize) = .ok () from hoffset]
  refine ⟨payloadOf request (table.reviews.filter
    (ReviewReader.matched server request.toReviewFilters)), ?_⟩
  cases check request.startDate request.endDate <;> rfl

theorem windowValidated_iff (server : Server) (startDate endDate : Option DateTime) :
    WindowValidated server startDate endDate ↔ Comparable startDate endDate := by
  have hcheck := @meets_check startDate endDate server.zone (Ordered server.zone startDate endDate)
  constructor
  · intro h
    obtain ⟨payload, hpayload⟩ := @listReviews_of_withoutWindow server ⟨[], List.nodup_nil⟩
      (requestBetween startDate endDate) _ rfl
    have hmeets := h ⟨[], List.nodup_nil⟩ (requestBetween startDate endDate) rfl rfl ⟨_, rfl⟩
    rw [hpayload, meets_map] at hmeets
    exact (hcheck.mp hmeets).1
  · rintro hcomparable table request rfl rfl ⟨payload, hanswered⟩
    obtain ⟨payload', hpayload⟩ := listReviews_of_withoutWindow hanswered
    rw [hpayload, meets_map]
    exact hcheck.mpr ⟨hcomparable, id⟩

end ReviewsService

/-! ## The overview

The comparison, and the defaults after it. -/

namespace OverviewService

/-- The window is validated, whatever the tables hold. -/
def WindowValidated (server : Server) (now : CurrentTime) (startDate endDate : Option DateTime) : Prop :=
  ∀ round2 stored tables,
    Meets (fun payload => Forward server.zone payload.startDate payload.endDate) IsValidationFailed
      (getOverview server round2 stored tables now startDate endDate)

theorem meets_window :
    Meets (fun window => Forward server.zone window.startDate window.endDate) IsValidationFailed
        (window now startDate endDate)
      ↔ Comparable startDate endDate ∧ Started server.zone now startDate endDate ∧
        InRange defaultWindow startDate endDate := by
  rw [window, meets_bind, meets_resolve (by decide) (by decide), meets_check server.zone]
  refine and_congr_right fun _ => ⟨fun h => ⟨?_, ?_⟩, fun h hordered => ⟨hordered, h⟩⟩
  · rintro s hs rfl
    exact (h (ordered_none_right _ _)).2.1 s hs rfl
  · rintro rfl
    exact (h (ordered_none_left _ _)).2.2 rfl

theorem meets_getOverview (round2 : ℚ → ℚ) (stored : Shuffle Insight) (tables : DashboardTables) :
    Meets (fun payload => Forward server.zone payload.startDate payload.endDate) IsValidationFailed
        (getOverview server round2 stored tables now startDate endDate)
      ↔ Comparable startDate endDate ∧ Started server.zone now startDate endDate ∧
        InRange defaultWindow startDate endDate := by
  rw [← meets_window, getOverview, meets_bind]
  exact Iff.rfl

theorem windowValidated_iff (server : Server) (now : CurrentTime) (startDate endDate : Option DateTime) :
    WindowValidated server now startDate endDate ↔ Comparable startDate endDate ∧
      Started server.zone now startDate endDate ∧ InRange defaultWindow startDate endDate := by
  constructor
  · intro h
    exact (meets_getOverview id .none .empty).mp (h id .none .empty)
  · intro h round2 stored tables
    exact (meets_getOverview round2 stored tables).mpr h

end OverviewService

/-! ## The trends

The defaults alone, of two windows of different lengths. -/

namespace TrendsService

/-- The window of `get_ratings` is validated, whatever the tables hold. -/
def RatingsValidated (server : Server) (now : CurrentTime) (startDate endDate : Option DateTime) : Prop :=
  ∀ round2 tables,
    Meets (fun payload => Forward server.zone payload.startDate payload.endDate) IsValidationFailed
      (getRatings server round2 tables now startDate endDate)

/-- And that of `get_categories`, whatever its filters. -/
def CategoriesValidated (server : Server) (now : CurrentTime) (startDate endDate : Option DateTime) :
    Prop :=
  ∀ answered tables sentiment categoryId,
    Meets (fun payload => Forward server.zone payload.startDate payload.endDate) IsValidationFailed
      (getCategories server answered tables now startDate endDate sentiment categoryId)

theorem meets_getRatings (round2 : ℚ → ℚ) (tables : DashboardTables) :
    Meets (fun payload => Forward server.zone payload.startDate payload.endDate) IsValidationFailed
        (getRatings server round2 tables now startDate endDate)
      ↔ Ordered server.zone startDate endDate ∧ Started server.zone now startDate endDate ∧
        InRange ratingsWindow startDate endDate := by
  rw [← meets_resolve (by decide) (by decide), getRatings, meets_bind]
  exact Iff.rfl

theorem meets_getCategories (answered : Shuffle CategoryCount) (tables : DashboardTables)
    (sentiment : Option Sentiment) (categoryId : Option ℕ) :
    Meets (fun payload => Forward server.zone payload.startDate payload.endDate) IsValidationFailed
        (getCategories server answered tables now startDate endDate sentiment categoryId)
      ↔ Ordered server.zone startDate endDate ∧ Started server.zone now startDate endDate ∧
        InRange categoriesWindow startDate endDate := by
  rw [← meets_resolve (by decide) (by decide), getCategories, meets_bind]
  exact Iff.rfl

theorem ratingsValidated_iff (server : Server) (now : CurrentTime) (startDate endDate : Option DateTime) :
    RatingsValidated server now startDate endDate ↔ Ordered server.zone startDate endDate ∧
      Started server.zone now startDate endDate ∧ InRange ratingsWindow startDate endDate := by
  constructor
  · intro h
    exact (meets_getRatings id .empty).mp (h id .empty)
  · intro h round2 tables
    exact (meets_getRatings round2 tables).mpr h

theorem categoriesValidated_iff (server : Server) (now : CurrentTime)
    (startDate endDate : Option DateTime) :
    CategoriesValidated server now startDate endDate ↔ Ordered server.zone startDate endDate ∧
      Started server.zone now startDate endDate ∧ InRange categoriesWindow startDate endDate := by
  constructor
  · intro h
    exact (meets_getCategories .none .empty none none).mp (h .none .empty none none)
  · intro h answered tables sentiment categoryId
    exact (meets_getCategories answered tables sentiment categoryId).mpr h

end TrendsService

/-- Each of the four services validates the window of a request with these dates. -/
structure WindowsValidated (server : Server) (now : CurrentTime) (startDate endDate : Option DateTime) :
    Prop where
  reviews : ReviewsService.WindowValidated server startDate endDate
  overview : OverviewService.WindowValidated server now startDate endDate
  ratings : TrendsService.RatingsValidated server now startDate endDate
  categories : TrendsService.CategoriesValidated server now startDate endDate

/-- **Which dates are validated**, by which service.  The reviews need dates that can be compared, the
overview also a start that is not in the future and a date to fill in; the two histories need dates that are
in order to begin with, since they compare nothing. -/
theorem windowsValidated_iff (server : Server) (now : CurrentTime) (startDate endDate : Option DateTime) :
    (ReviewsService.WindowValidated server startDate endDate ↔ Comparable startDate endDate) ∧
      (OverviewService.WindowValidated server now startDate endDate ↔ Comparable startDate endDate ∧
        Started server.zone now startDate endDate ∧
        InRange OverviewService.defaultWindow startDate endDate) ∧
      (TrendsService.RatingsValidated server now startDate endDate ↔
        Ordered server.zone startDate endDate ∧ Started server.zone now startDate endDate ∧
        InRange TrendsService.ratingsWindow startDate endDate) ∧
      (TrendsService.CategoriesValidated server now startDate endDate ↔
        Ordered server.zone startDate endDate ∧ Started server.zone now startDate endDate ∧
        InRange TrendsService.categoriesWindow startDate endDate) ∧
      (WindowsValidated server now startDate endDate ↔ Comparable startDate endDate ∧
        Ordered server.zone startDate endDate ∧ Started server.zone now startDate endDate ∧
        InRange TrendsService.ratingsWindow startDate endDate) := by
  have hreviews := ReviewsService.windowValidated_iff server startDate endDate
  have hoverview := OverviewService.windowValidated_iff server now startDate endDate
  have hratings := TrendsService.ratingsValidated_iff server now startDate endDate
  have hcategories := TrendsService.categoriesValidated_iff server now startDate endDate
  refine ⟨hreviews, hoverview, hratings, hcategories, ?_, ?_⟩
  · rintro ⟨hreviews', -, hratings', -⟩
    exact ⟨hreviews.mp hreviews', hratings.mp hratings'⟩
  · rintro ⟨hcomparable, hordered, hstarted, hrange⟩
    have hweek : InRange OverviewService.defaultWindow startDate endDate :=
      hrange.mono (by decide) (by decide)
    exact ⟨hreviews.mpr hcomparable, hoverview.mpr ⟨hcomparable, hstarted, hweek⟩,
      hratings.mpr ⟨hordered, hstarted, hrange⟩, hcategories.mpr ⟨hordered, hstarted, hrange⟩⟩

/-- Midnight, 15 November 2023, in UTC. -/
def midnight : DateTime := ⟨1700006400000000, some 0, by decide, DateTime.utc_lt⟩

/-- The midnight before it, without an offset. -/
def midnightBefore : DateTime := ⟨1699920000000000, none, by decide, nofun⟩

/-- An hour before noon of the day between them. -/
def morning : CurrentTime := ⟨1699959600000000, by decide, by decide⟩

/-- The ratings are answered from midnight to the midnight before it; of these two dates the reviews and the
overview fail in comparing them, and a start in the future alone leaves the overview with no window. -/
theorem not_windowValidated : ¬ WindowsValidated ⟨.ascii, 0⟩ morning (some midnight) (some midnightBefore) ∧
    ¬ TrendsService.RatingsValidated ⟨.ascii, 0⟩ morning (some midnight) (some midnightBefore) ∧
    ¬ ReviewsService.WindowValidated ⟨.ascii, 0⟩ (some midnight) (some midnightBefore) ∧
    ¬ OverviewService.WindowValidated ⟨.ascii, 0⟩ morning (some midnight) none := by
  have hratings : ¬ TrendsService.RatingsValidated ⟨.ascii, 0⟩ morning (some midnight)
      (some midnightBefore) := by
    intro h
    have hordered := ((TrendsService.ratingsValidated_iff _ _ _ _).mp h).1
    exact absurd (ordered_some.mp hordered) (by decide)
  refine ⟨fun h => hratings h.ratings, hratings, ?_, ?_⟩
  · intro h
    have hcomparable := (ReviewsService.windowValidated_iff _ _ _).mp h
    exact hcomparable midnight rfl midnightBefore rfl (by decide)
  · intro h
    have hstarted := ((OverviewService.windowValidated_iff _ _ _ _).mp h).2.1
    exact absurd (hstarted midnight rfl rfl) (by decide)

end ReviewSignal
