import ReviewSignal.Services.TrendsSummary

/-!
# From a movement to its mentions

A movement of the summary names a category and a sentiment; `GET /trends/categories` takes both as filters.

* `categorySentimentCounts_filter` — what the filters of the statement select before counting is what they
  would select of the rows;
* **`drill_down`** — asked for a window of the summary and a movement's category and sentiment, the route
  answers with the count the movement has for it: the current one or the previous one, and with no row where
  the movement has none.

The route has to be asked for the bounds of a window of the summary, which the payload has.  Its own default
is the last thirty days.

The two windows share a moment, and so do the two answers: what is counted in both by the summary is counted
in both by the route (`countsOnce_iff`).
-/

namespace ReviewSignal

namespace TrendsReader

variable {server : Server} {tables : DashboardTables} {window : Window} {sentiment : Option Sentiment}
variable {categoryId : Option ℕ} {aspect : ReviewAspect}

/-- A category and a sentiment meet the filters of a request. -/
def Wanted (sentiment : Option Sentiment) (categoryId : Option ℕ) (category : ℕ) (value : Sentiment) : Prop :=
  (∀ wanted ∈ sentiment, value = wanted) ∧ ∀ wanted ∈ categoryId, category = wanted

instance (category : ℕ) (value : Sentiment) : Decidable (Wanted sentiment categoryId category value) :=
  inferInstanceAs (Decidable (_ ∧ _))

theorem selected_filter : selected server tables window sentiment categoryId aspect
    = (selected server tables window none none aspect).filter fun group =>
        Wanted sentiment categoryId group.categoryId group.sentiment := by
  rw [selected, selected]
  cases joined tables aspect with
  | none => rfl
  | some row =>
      obtain ⟨analysis, review, node⟩ := row
      simp only [Option.bind_eq_bind, Option.bind_some]
      by_cases hselected : analysis.supersededAt = none ∧ ReviewReader.inWindow server window review
      · by_cases hwanted : Wanted sentiment categoryId aspect.taxonomyNodeId aspect.sentiment
        · rw [if_pos ⟨hselected.1, hselected.2, hwanted⟩, if_pos ⟨hselected.1, hselected.2, by simp, by simp⟩]
          simp [Option.filter, hwanted]
        · rw [if_neg fun h => hwanted h.2.2, if_pos ⟨hselected.1, hselected.2, by simp, by simp⟩]
          simp [Option.filter, hwanted]
      · rw [not_and] at hselected
        rw [if_neg fun h => hselected h.1 h.2.1, if_neg fun h => hselected h.1 h.2.1]
        rfl

/-- **The filters commute with the counting.** -/
theorem categorySentimentCounts_filter : categorySentimentCounts server tables window sentiment categoryId
    = (categorySentimentCounts server tables window none none).filter fun row =>
        Wanted sentiment categoryId row.categoryId row.sentiment := by
  have hgroups : tables.aspects.filterMap (selected server tables window sentiment categoryId)
      = (tables.aspects.filterMap (selected server tables window none none)).filter fun group =>
          Wanted sentiment categoryId group.categoryId group.sentiment := by
    rw [List.filter_filterMap]
    exact List.filterMap_congr fun aspect _ => selected_filter
  rw [categorySentimentCounts, categorySentimentCounts, hgroups, dedup_filter, List.filter_map]
  refine List.map_congr_left fun group hgroup => ?_
  congr 1
  exact List.count_filter (List.mem_filter.mp hgroup).2

/-- **Both filters select a key**: its row, if it is mentioned. -/
theorem categorySentimentCounts_key (key : MentionKey) :
    categorySentimentCounts server tables window (some key.sentiment) (some key.categoryId)
      = let counted := mentions tables (window.startDate.instant server.zone)
          (window.endDate.instant server.zone)
        if key ∈ counted then [rowOf tables counted key] else [] := by
  rw [categorySentimentCounts_filter, categorySentimentCounts_eq]
  show (List.map _ _).filter _ = _
  have hkey (other : MentionKey) :
      Wanted (some key.sentiment) (some key.categoryId) other.categoryId other.sentiment ↔ other = key := by
    obtain ⟨categoryId, sentiment⟩ := other
    obtain ⟨wantedId, wanted⟩ := key
    simp [Wanted, and_comm]
  rw [List.filter_map]
  simp only [Function.comp_def, rowOf, hkey]
  rw [List.filter_eq, List.count_dedup]
  split_ifs <;> rfl

end TrendsReader

namespace TrendsService

variable {server : Server} {tables : DashboardTables}

/-- The row of a movement's category and sentiment, for a count. -/
def rowsOf (movement : CategoryMovement) (count : ℕ) : List CategoryCount :=
  if count = 0 then [] else [⟨movement.categoryId, movement.categoryName, movement.sentiment, count⟩]

/-- The route's answer about a key of a window. -/
theorem getCategories_key (answered : Shuffle CategoryCount) (later : CurrentTime) (window : Window)
    (key : MentionKey) :
    getCategories server answered tables later (some window.startDate) (some window.endDate)
        (some key.sentiment) (some key.categoryId)
      = .ok ⟨window.startDate, window.endDate,
          if key ∈ mentionsIn server tables window then
            [TrendsReader.rowOf tables (mentionsIn server tables window) key]
          else []⟩ := by
  have hresolve : Windows.resolve categoriesWindow (.now later) (some window.startDate)
      (some window.endDate) = .ok window := rfl
  rw [getCategories, hresolve]
  show Except.ok (CategoryTrendsPayload.mk _ _ (answered.order _)) = _
  rw [TrendsReader.categorySentimentCounts_key]
  show Except.ok (CategoryTrendsPayload.mk _ _ (answered.order
    (if key ∈ mentionsIn server tables window then _ else _))) = _
  split_ifs
  · rw [List.perm_singleton.mp (answered.perm _)]
    rfl
  · rw [List.perm_nil.mp (answered.perm _)]

/-- The answer about a movement, where its key is counted in the window. -/
theorem getCategories_movement (answered : Shuffle CategoryCount) (later : CurrentTime) (window : Window)
    (current previous : List MentionKey) (key : MentionKey) :
    let movement := movementOf tables current previous key
    getCategories server answered tables later (some window.startDate) (some window.endDate)
        (some movement.sentiment) (some movement.categoryId)
      = .ok ⟨window.startDate, window.endDate,
          rowsOf movement ((mentionsIn server tables window).count key)⟩ := by
  intro movement
  rw [rowsOf]
  refine (getCategories_key answered later window key).trans ?_
  by_cases hkey : key ∈ mentionsIn server tables window
  · rw [if_pos hkey, if_neg (List.count_pos_iff.mpr hkey).ne']
    rfl
  · rw [if_neg hkey, if_pos (List.count_eq_zero_of_not_mem hkey)]

/-- What the summary ranks is a movement of its keys. -/
theorem mem_of_ranked {all : List CategoryMovement} {movement : CategoryMovement}
    (h : movement ∈ Ranking.top Larger topN (all.filter (0 < ·.delta))
      ++ Ranking.top Smaller topN (all.filter (·.delta < 0))) : movement ∈ all := by
  rcases List.mem_append.mp h with hmem | hmem <;>
    exact List.mem_of_mem_filter ((List.perm_insertionSort _ _).mem_iff.mp (List.mem_of_mem_take hmem))

/-- **From a movement to its mentions**: asked for a window of the summary, and for the category and the
sentiment of a movement, the route answers with the count of the movement. -/
theorem drill_down (server : Server) (orders : SummaryOrders) (answered : Shuffle CategoryCount)
    (tables : DashboardTables) (now later : CurrentTime) :
    ∃ payload, getSummary server orders tables now = .ok payload ∧
    ∀ movement ∈ payload.biggestIncreases ++ payload.biggestDecreases,
      getCategories server answered tables later (some payload.currentStart) (some payload.currentEnd)
          (some movement.sentiment) (some movement.categoryId)
        = .ok ⟨payload.currentStart, payload.currentEnd, rowsOf movement movement.currentCount⟩ ∧
      getCategories server answered tables later (some payload.previousStart) (some payload.previousEnd)
          (some movement.sentiment) (some movement.categoryId)
        = .ok ⟨payload.previousStart, payload.previousEnd, rowsOf movement movement.previousCount⟩ := by
  obtain ⟨current, previous, hwindows, -⟩ := summaryWindows_eq now
  rw [getSummary, hwindows]
  show ∃ payload, (movements server orders tables current previous >>= _) = _ ∧ _
  rw [movements_eq]
  refine ⟨_, rfl, fun movement hmovement => ?_⟩
  obtain ⟨key, -, rfl⟩ := List.mem_map.mp (mem_of_ranked hmovement)
  exact ⟨getCategories_movement answered later current _ _ key,
    getCategories_movement answered later previous _ _ key⟩

end TrendsService

end ReviewSignal
