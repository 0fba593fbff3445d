import ReviewSignal.Db.Models
import ReviewSignal.Foundations.DateTimes
import ReviewSignal.Foundations.LikePattern

/-!
# The tables the dashboard reads

The dashboard only reads, so that its tables are plain lists with their constraints: a list is the order
the server happens to keep the rows in.  The keys of reviews are uuids, which the server orders as
numbers; the rows of `review_analyses`, `review_aspects`, `taxonomy_nodes` and `insights` are named by
their positions.

The constraints the results use are fields: ids are distinct, the text of a review has no NUL, and a foreign
key is of a row there is.  A result about every table therefore needs no hypothesis on its rows.

How text is folded for `ILIKE` and where a day begins are decided by the server and not by the code
(`Server`).
-/

namespace ReviewSignal

/-- One row of `reviews` with its keys.  No text column holds a NUL. -/
structure StoredReview extends Review where
  id : ℕ
  sourceReviewId : String
  text_storable : ∀ text ∈ reviewText, '\x00' ∉ text.toList
  deriving DecidableEq

theorem no_text_storable : ∀ text ∈ (none : Option String), '\x00' ∉ text.toList := nofun

/-- The rows of `reviews`. -/
structure ReviewRows where
  reviews : List StoredReview
  ids_nodup : (reviews.map (·.id)).Nodup
  deriving DecidableEq

/-- `SENTIMENTS` -/
inductive Sentiment where
  | positive
  | neutral
  | negative
  deriving DecidableEq, Repr

/-- One row of `review_analyses`. -/
structure ReviewAnalysis where
  reviewId : ℕ
  supersededAt : Option Instant
  deriving DecidableEq, Repr

/-- One row of `review_aspects`. -/
structure ReviewAspect where
  reviewAnalysisId : ℕ
  taxonomyNodeId : ℕ
  sentiment : Sentiment
  deriving DecidableEq, Repr

/-- `INSIGHT_STATUSES` -/
inductive InsightStatus where
  | new
  | monitoring
  | resolved
  deriving DecidableEq, Repr

/-- One row of `insights`. -/
structure Insight where
  title : String
  severity : String
  status : InsightStatus
  createdAt : Instant
  deriving DecidableEq, Repr

/-- The tables of the dashboard, with their foreign keys. -/
structure DashboardTables extends ReviewRows where
  analyses : List ReviewAnalysis
  aspects : List ReviewAspect
  nodes : List TaxonomyNode
  insights : List Insight
  analysis_review : ∀ analysis ∈ analyses, analysis.reviewId ∈ reviews.map (·.id)
  aspect_analysis : ∀ aspect ∈ aspects, aspect.reviewAnalysisId < analyses.length
  aspect_node : ∀ aspect ∈ aspects, aspect.taxonomyNodeId < nodes.length
  deriving DecidableEq

/-- The tables of a fresh install. -/
def DashboardTables.empty : DashboardTables where
  reviews := []
  ids_nodup := List.nodup_nil
  analyses := []
  aspects := []
  nodes := []
  insights := []
  analysis_review := nofun
  aspect_analysis := nofun
  aspect_node := nofun

/-- What the configuration of the server decides: how `ILIKE` folds case, and the session's time zone. -/
structure Server where
  folding : Folding
  zone : ℤ

end ReviewSignal
