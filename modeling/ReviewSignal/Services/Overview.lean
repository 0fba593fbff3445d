import ReviewSignal.Repositories.ReviewReader
import ReviewSignal.Foundations.Ranking

/-!
# The overview

`OverviewService.get_overview`: the reviews of a window, counted and averaged, by day as well, and the active
insights.  `round2` is `round(float(average), 2)`.

The window is resolved once and handed to two statements, which do not see each other's rows; here they see
one table, that of the request.  What the figures have to do with each other is the subject of
`OverviewTotals`, and what they have to do with the list of reviews that of `OverviewPages`.
-/

namespace ReviewSignal

/-- `RatingTrendPoint` -/
structure RatingTrendPoint where
  date : ℤ
  reviewCount : ℕ
  averageRating : Option ℚ
  deriving DecidableEq, Repr

/-- `InsightSummary` -/
structure InsightSummary where
  title : String
  severity : String
  status : InsightStatus
  createdAt : Instant
  deriving DecidableEq, Repr

/-- `OverviewPayload`, without the two lists of themes, which are always empty. -/
structure OverviewPayload where
  startDate : DateTime
  endDate : DateTime
  reviewCount : ℕ
  averageRating : Option ℚ
  ratingTrend : List RatingTrendPoint
  activeInsights : List InsightSummary
  deriving DecidableEq

namespace InsightReader

/-- `_ACTIVE_STATUSES` -/
def activeStatuses : List InsightStatus := [.new, .monitoring]

/-- `list_active`; nothing specifies the order of insights of one moment. -/
def listActive (stored : Shuffle Insight) (insights : List Insight) : List Insight :=
  ((stored.order insights).filter (·.status ∈ activeStatuses)).insertionSort
    fun a b => b.createdAt ≤ a.createdAt

end InsightReader

namespace OverviewService

/-- `DEFAULT_WINDOW` -/
def defaultWindow : ℤ := Windows.days 7

/-- `RatingTrendPoint(date=row.day.date(), …)` -/
def point (round2 : ℚ → ℚ) (row : TrendRow) : RatingTrendPoint :=
  ⟨row.day, row.reviewCount, row.averageRating.map round2⟩

/-- `InsightSummary.model_validate` -/
def insight (row : Insight) : InsightSummary := ⟨row.title, row.severity, row.status, row.createdAt⟩

/-- The window of a request: `get_overview` up to its first statement. -/
def window (now : CurrentTime) (startDate endDate : Option DateTime) : Except Exn Window := do
  Windows.check startDate endDate
  Windows.resolve defaultWindow (.now now) startDate endDate

/-- `get_overview` -/
def getOverview (server : Server) (round2 : ℚ → ℚ) (stored : Shuffle Insight) (tables : DashboardTables)
    (now : CurrentTime) (startDate endDate : Option DateTime) : Except Exn OverviewPayload := do
  let window ← window now startDate endDate
  let (reviewCount, averageRating) := ReviewReader.countAndAverage server tables.toReviewRows window
  let trendRows := ReviewReader.dailyTrend server tables.toReviewRows window
  let activeInsights := InsightReader.listActive stored tables.insights
  return {
    startDate := window.startDate
    endDate := window.endDate
    reviewCount := reviewCount
    averageRating := averageRating.map round2
    ratingTrend := trendRows.map (point round2)
    activeInsights := activeInsights.map insight }

end OverviewService

end ReviewSignal
