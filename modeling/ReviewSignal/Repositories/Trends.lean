import ReviewSignal.Repositories.ReviewReader
import Mathlib.Data.List.Dedup

/-!
# Counting mentions

`TrendsReader.category_sentiment_counts`: the aspects of current analyses of the reviews of a window, counted
by category and sentiment.  Joins are on primary keys, so that an aspect has at most one row in the join.

**`categorySentimentCounts_eq`** reads the statement back as what it counts: the keys of the mentions of the
window, each with how often it occurs.  The name of a category is that of its node and adds nothing to a key
(`groupOf_injective`), so grouping by it as well changes no count.

Nothing specifies the order of the rows of a grouped statement, and the theorem says of them what does not
depend on it.  Both ends of the window are included.
-/

namespace ReviewSignal

/-- A row of `category_sentiment_counts`. -/
structure CategoryCount where
  categoryId : ℕ
  categoryName : String
  sentiment : Sentiment
  mentionCount : ℕ
  deriving DecidableEq, Repr

/-- The category and the sentiment of a mention. -/
structure MentionKey where
  categoryId : ℕ
  sentiment : Sentiment
  deriving DecidableEq, Repr

namespace TrendsReader

/-- What the rows are grouped by. -/
structure Group where
  categoryId : ℕ
  categoryName : String
  sentiment : Sentiment
  deriving DecidableEq, Repr

/-- The joins of an aspect with its analysis, its review and its node. -/
def joined (tables : DashboardTables) (aspect : ReviewAspect) :
    Option (ReviewAnalysis × StoredReview × TaxonomyNode) := do
  let analysis ← tables.analyses[aspect.reviewAnalysisId]?
  let review ← tables.reviews.find? (·.id = analysis.reviewId)
  let node ← tables.nodes[aspect.taxonomyNodeId]?
  return (analysis, review, node)

/-- The group an aspect is counted in, if the `WHERE` clause selects it. -/
def selected (server : Server) (tables : DashboardTables) (window : Window)
    (sentiment : Option Sentiment) (categoryId : Option ℕ) (aspect : ReviewAspect) : Option Group := do
  let (analysis, review, node) ← joined tables aspect
  if analysis.supersededAt = none ∧ ReviewReader.inWindow server window review
      ∧ (∀ value ∈ sentiment, aspect.sentiment = value)
      ∧ (∀ value ∈ categoryId, aspect.taxonomyNodeId = value) then
    some ⟨aspect.taxonomyNodeId, node.name, aspect.sentiment⟩
  else none

/-- `category_sentiment_counts`; nothing specifies the order of its rows. -/
def categorySentimentCounts (server : Server) (tables : DashboardTables) (window : Window)
    (sentiment : Option Sentiment) (categoryId : Option ℕ) : List CategoryCount :=
  let groups := tables.aspects.filterMap (selected server tables window sentiment categoryId)
  groups.dedup.map fun group =>
    ⟨group.categoryId, group.categoryName, group.sentiment, groups.count group⟩

/-! ## What the statement counts

From the joined rows to the aspects they are joined from. -/

/-- When the review of an aspect was written, if the aspect is of a current analysis. -/
def mentionedAt (tables : DashboardTables) (aspect : ReviewAspect) : Option Instant := do
  let (analysis, review, _) ← joined tables aspect
  if analysis.supersededAt = none then some review.createdAt else none

/-- The aspect is a mention of a review between two moments, both included. -/
def mentioned (tables : DashboardTables) (first last : Instant) (aspect : ReviewAspect) : Bool :=
  (mentionedAt tables aspect).any fun moment => first ≤ moment ∧ moment ≤ last

/-- The category and the sentiment of an aspect. -/
def key (aspect : ReviewAspect) : MentionKey := ⟨aspect.taxonomyNodeId, aspect.sentiment⟩

/-- The keys of the mentions between two moments. -/
def mentions (tables : DashboardTables) (first last : Instant) : List MentionKey :=
  (tables.aspects.filter (mentioned tables first last)).map key

/-- The name of a category. -/
def categoryName (tables : DashboardTables) (categoryId : ℕ) : String :=
  (tables.nodes[categoryId]?.map (·.name)).getD ""

/-- The row that counts a key. -/
def rowOf (tables : DashboardTables) (counted : List MentionKey) (key : MentionKey) :
    CategoryCount :=
  ⟨key.categoryId, categoryName tables key.categoryId, key.sentiment, counted.count key⟩

variable {server : Server} {tables : DashboardTables} {window : Window} {aspect : ReviewAspect}

theorem categoryName_of_joined {analysis : ReviewAnalysis} {review : StoredReview} {node : TaxonomyNode}
    (h : joined tables aspect = some (analysis, review, node)) :
    categoryName tables aspect.taxonomyNodeId = node.name := by
  simp only [joined, Option.bind_eq_bind, Option.bind_eq_some_iff, Option.pure_def, Option.some.injEq,
    Prod.mk.injEq] at h
  obtain ⟨_, -, _, -, node', hnode, -, -, rfl⟩ := h
  rw [categoryName, hnode]
  rfl

/-- An aspect that is selected is a mention of the window, in the group of its key. -/
theorem selected_eq : selected server tables window none none aspect
    = if mentioned tables (window.startDate.instant server.zone) (window.endDate.instant server.zone)
          aspect then
        some ⟨aspect.taxonomyNodeId, categoryName tables aspect.taxonomyNodeId, aspect.sentiment⟩
      else none := by
  rw [selected, mentioned, mentionedAt]
  cases hjoined : joined tables aspect with
  | none => rfl
  | some row =>
      obtain ⟨analysis, review, node⟩ := row
      rw [categoryName_of_joined hjoined]
      by_cases hcurrent : analysis.supersededAt = none <;>
        simp [hcurrent, ReviewReader.inWindow]

/-- The group of a key. -/
def groupOf (tables : DashboardTables) (key : MentionKey) : Group :=
  ⟨key.categoryId, categoryName tables key.categoryId, key.sentiment⟩

theorem groupOf_injective (tables : DashboardTables) : Function.Injective (groupOf tables) := by
  rintro ⟨categoryId, sentiment⟩ ⟨categoryId', sentiment'⟩ h
  simp only [groupOf, Group.mk.injEq] at h
  rw [h.1, h.2.2]

/-- **What the statement counts**: the keys of the mentions of the window. -/
theorem categorySentimentCounts_eq : categorySentimentCounts server tables window none none
    = let counted := mentions tables (window.startDate.instant server.zone)
        (window.endDate.instant server.zone)
      counted.dedup.map (rowOf tables counted) := by
  have hgroups : tables.aspects.filterMap (selected server tables window none none)
      = (mentions tables (window.startDate.instant server.zone)
          (window.endDate.instant server.zone)).map (groupOf tables) := by
    rw [mentions, List.map_map, ← List.filterMap_eq_map, ← List.filterMap_eq_filter,
      List.filterMap_filterMap]
    refine List.filterMap_congr fun aspect _ => ?_
    rw [selected_eq, Option.guard]
    split_ifs <;> rfl
  rw [categorySentimentCounts, hgroups]
  show ((List.map _ _).dedup).map _ = _
  rw [List.dedup_map_of_injective (groupOf_injective tables), List.map_map]
  refine List.map_congr_left fun key _ => ?_
  show CategoryCount.mk _ _ _ (List.count (groupOf tables key) _) = _
  rw [List.count_map_of_injective _ _ (groupOf_injective tables)]
  rfl

end TrendsReader

end ReviewSignal
