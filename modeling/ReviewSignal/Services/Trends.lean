import ReviewSignal.Repositories.Trends
import ReviewSignal.Services.Overview

/-!
# Trends

`TrendsService`: ratings by day, mentions by category, and the biggest movements between the last seven days
and the seven before them.

The server returns the rows of a grouped statement in any order, and Python iterates over a set of keys in
any order: `SummaryOrders` are these orders in one call of `get_summary`.  The movements are sorted by their
change alone, and a stable sort leaves ties in the order they came in; so which orders a call meets can show
in its answer, and the results about the summary say when it does not.

Two questions are asked of the summary: what its windows compare (`TrendsSummary`) and what it ranks
(`TrendsRanking`).
-/

namespace ReviewSignal

/-- `RatingHistoryPayload`; a point has the fields of the overview's. -/
structure RatingHistoryPayload where
  startDate : DateTime
  endDate : DateTime
  points : List RatingTrendPoint
  deriving DecidableEq

/-- `CategoryTrendsPayload`; a point has the fields of the row. -/
structure CategoryTrendsPayload where
  startDate : DateTime
  endDate : DateTime
  categories : List CategoryCount
  deriving DecidableEq

/-- `CategoryMovement` -/
structure CategoryMovement where
  categoryId : ℕ
  categoryName : String
  sentiment : Sentiment
  currentCount : ℕ
  previousCount : ℕ
  delta : ℤ
  deriving DecidableEq, Repr

/-- `TrendsSummaryPayload` -/
structure TrendsSummaryPayload where
  currentStart : DateTime
  currentEnd : DateTime
  previousStart : DateTime
  previousEnd : DateTime
  biggestIncreases : List CategoryMovement
  biggestDecreases : List CategoryMovement
  deriving DecidableEq

/-- The orders of one summary that nothing specifies. -/
structure SummaryOrders where
  currentRows : Shuffle CategoryCount
  previousRows : Shuffle CategoryCount
  keys : Shuffle MentionKey

namespace TrendsService

/-- `RATINGS_WINDOW` -/
def ratingsWindow : ℤ := Windows.days 30

/-- `CATEGORIES_WINDOW` -/
def categoriesWindow : ℤ := Windows.days 30

/-- `SUMMARY_WINDOW` -/
def summaryWindow : ℤ := Windows.days 7

/-- `TOP_N` -/
def topN : ℕ := 5

/-- `get_ratings` -/
def getRatings (server : Server) (round2 : ℚ → ℚ) (tables : DashboardTables) (now : CurrentTime)
    (startDate endDate : Option DateTime) : Except Exn RatingHistoryPayload := do
  let window ← Windows.resolve ratingsWindow (.now now) startDate endDate
  let rows := ReviewReader.dailyTrend server tables.toReviewRows window
  return ⟨window.startDate, window.endDate, rows.map (OverviewService.point round2)⟩

/-- `get_categories` -/
def getCategories (server : Server) (answered : Shuffle CategoryCount) (tables : DashboardTables)
    (now : CurrentTime) (startDate endDate : Option DateTime) (sentiment : Option Sentiment)
    (categoryId : Option ℕ) : Except Exn CategoryTrendsPayload := do
  let window ← Windows.resolve categoriesWindow (.now now) startDate endDate
  let rows := answered.order
    (TrendsReader.categorySentimentCounts server tables window sentiment categoryId)
  return ⟨window.startDate, window.endDate, rows⟩

/-! ## The summary

`get_summary`, from the rows of its two statements to the first five of either sort. -/

/-- `(row.category_id, row.sentiment)` -/
def rowKey (row : CategoryCount) : MentionKey := ⟨row.categoryId, row.sentiment⟩

/-- `{(row.category_id, row.sentiment): row for row in rows}.get(key)`: the last row with the key. -/
def get (rows : List CategoryCount) (key : MentionKey) : Option CategoryCount :=
  rows.reverse.find? (rowKey · = key)

/-- `current.keys() | previous.keys()` -/
def unionKeys (current previous : List CategoryCount) : List MentionKey :=
  ((current ++ previous).map rowKey).dedup

/-- The body of the loop over the keys. -/
def movement (current previous : List CategoryCount) (key : MentionKey) :
    Except Exn CategoryMovement :=
  let currentRow := get current key
  let previousRow := get previous key
  match currentRow.or previousRow with
  | none => .error ⟨"AssertionError", ""⟩
  | some reference =>
      let currentCount := (currentRow.map (·.mentionCount)).getD 0
      let previousCount := (previousRow.map (·.mentionCount)).getD 0
      .ok ⟨reference.categoryId, reference.categoryName, reference.sentiment, currentCount,
        previousCount, currentCount - previousCount⟩

/-- The two windows of the summary, the current one first. -/
def summaryWindows (now : CurrentTime) : Except Exn (Window × Window) := do
  let currentEnd := DateTime.now now
  let currentStart ← currentEnd.sub summaryWindow
  let previousEnd := currentStart
  let previousStart ← previousEnd.sub summaryWindow
  return (⟨currentStart, currentEnd⟩, ⟨previousStart, previousEnd⟩)

/-- All movements between the two windows. -/
def movements (server : Server) (orders : SummaryOrders) (tables : DashboardTables)
    (current previous : Window) : Except Exn (List CategoryMovement) :=
  let currentRows := orders.currentRows.order
    (TrendsReader.categorySentimentCounts server tables current none none)
  let previousRows := orders.previousRows.order
    (TrendsReader.categorySentimentCounts server tables previous none none)
  (orders.keys.order (unionKeys currentRows previousRows)).mapM (movement currentRows previousRows)

/-- `key=lambda m: m.delta, reverse=True`; a reversed sort is stable as well. -/
def Larger (a b : CategoryMovement) : Prop := b.delta ≤ a.delta

instance : DecidableRel Larger := fun _ _ => inferInstanceAs (Decidable (_ ≤ _))

/-- `key=lambda m: m.delta` -/
def Smaller (a b : CategoryMovement) : Prop := a.delta ≤ b.delta

instance : DecidableRel Smaller := fun _ _ => inferInstanceAs (Decidable (_ ≤ _))

/-- `get_summary` -/
def getSummary (server : Server) (orders : SummaryOrders) (tables : DashboardTables)
    (now : CurrentTime) : Except Exn TrendsSummaryPayload := do
  let (current, previous) ← summaryWindows now
  let movements ← movements server orders tables current previous
  return {
    currentStart := current.startDate
    currentEnd := current.endDate
    previousStart := previous.startDate
    previousEnd := previous.endDate
    biggestIncreases := Ranking.top Larger topN (movements.filter (0 < ·.delta))
    biggestDecreases := Ranking.top Smaller topN (movements.filter (·.delta < 0)) }

end TrendsService

end ReviewSignal
