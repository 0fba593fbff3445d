import ReviewSignal.Ai.Evaluation.MetricAgreement
import ReviewSignal.Foundations.Rearranged

/-!
# The scores do not depend on order

Two runs over the same labels and predictions, in whatever order, give the same metrics.  Every metric
is a function of counts and sums over its own list; what is left to show is that the lists of the two
runs are rearrangements of each other, and that the label universe is the same list in both.

**`scores_order_independent`** takes all three orders at once: that of the items, that of an item's gold
aspects and that of its predictions.  The items of the two runs are related one by one, up to a permutation
(`Rearranged`), and so is what each of them adds.

Either run may have no scores, because a prediction of it is refused; then neither has any.  In exact
arithmetic the sums do not depend on the order of their terms, which floats do.
-/

namespace ReviewSignal

theorem sortedSet_congr {labels other : List String}
    (h : ∀ label, label ∈ labels ↔ label ∈ other) : sortedSet labels = sortedSet other := by
  have hdedup : labels.dedup.Perm other.dedup :=
    (List.perm_ext_iff_of_nodup (List.nodup_dedup _) (List.nodup_dedup _)).mpr fun label => by
      simpa using h label
  have hperm : (sortedSet labels).Perm (sortedSet other) :=
    ((List.perm_insertionSort _ _).trans hdedup).trans (List.perm_insertionSort _ _).symm
  exact hperm.eq_of_pairwise' (List.pairwise_insertionSort _ _) (List.pairwise_insertionSort _ _)

/-! ## Each metric on its own

Metrics of lists that are rearrangements of each other. -/

theorem ClassificationMetrics.of_congr {items other : List (List String × List String)}
    {labels : List String} (hcounts : ∀ label, labelCounts items label = labelCounts other label)
    (hlength : items.length = other.length) :
    ClassificationMetrics.of items labels = .of other labels := by
  simp only [ClassificationMetrics.of, microCounts, labelScore, hcounts, hlength]

theorem SentimentMetrics.of_perm {pairs other : List (String × String)} (h : pairs.Perm other) :
    SentimentMetrics.of pairs = .of other := by
  have hscore : sentimentScore pairs = sentimentScore other := by
    funext label
    simp only [sentimentScore, h.count_eq]
  simp only [SentimentMetrics.of, agreements, hscore, h.count_eq, h.length_eq]

theorem CalibrationMetrics.of_perm {predictions other : List (ℚ × Bool)}
    (h : predictions.Perm other) (bucketCount : ℕ) :
    CalibrationMetrics.of bucketCount predictions = .of bucketCount other := by
  have hbucket : ReliabilityBucket.of bucketCount predictions
      = ReliabilityBucket.of bucketCount other := by
    funext index
    have hfiled : (inBucket bucketCount predictions index).Perm (inBucket bucketCount other index) :=
      h.filter _
    simp only [ReliabilityBucket.of, hfiled.length_eq, (hfiled.map _).sum_eq, hfiled.countP_eq]
  simp only [CalibrationMetrics.of, hbucket, (h.map _).sum_eq, h.length_eq]

/-! ## Two runs

What one item adds, and all of them. -/

/-- The gold aspects of one item, and what is predicted for it, are those of the other. -/
structure SameLabels (predictor other : Predictor) (item image : BenchmarkItem) : Prop where
  gold : item.aspects.Perm image.aspects
  predicted : (predictor.predict item).Perm (other.predict image)

namespace SameLabels

variable {predictor other : Predictor} {item image : BenchmarkItem}

theorem categoryIds (h : SameLabels predictor other item image) (label : String) :
    label ∈ item.categoryIds ↔ label ∈ image.categoryIds := (h.gold.map _).mem_iff

theorem predictedIds (h : SameLabels predictor other item image) (label : String) :
    label ∈ (predictor.predict item).map (·.categoryId)
      ↔ label ∈ (other.predict image).map (·.categoryId) := (h.predicted.map _).mem_iff

theorem validPrediction (h : SameLabels predictor other item image) :
    ValidPrediction (predictor.predict item) ↔ ValidPrediction (other.predict image) := by
  constructor
  · intro hvalid
    exact ⟨(h.predicted.map _).nodup_iff.mp hvalid.distinct,
      fun a ha => hvalid.known a (h.predicted.mem_iff.mpr ha),
      fun a ha => hvalid.inRange a (h.predicted.mem_iff.mpr ha)⟩
  · intro hvalid
    exact ⟨(h.predicted.map _).nodup_iff.mpr hvalid.distinct,
      fun a ha => hvalid.known a (h.predicted.mem_iff.mp ha),
      fun a ha => hvalid.inRange a (h.predicted.mem_iff.mp ha)⟩

theorem sentimentPairs (h : SameLabels predictor other item image) :
    (sentimentPairs item (predictor.predict item)).Perm
      (sentimentPairs image (other.predict image)) := by
  have hshared : sharedCategories item (predictor.predict item)
      = sharedCategories image (other.predict image) := by
    refine sortedSet_congr fun label => ?_
    simp only [List.mem_filter, decide_eq_true_eq, h.categoryIds label, h.predictedIds label]
  refine List.Perm.map _ ?_
  rw [hshared]
  exact List.Perm.flatMap_left _ fun category _ => (h.gold.filter _).product (h.predicted.filter _)

theorem isRight_eq (h : SameLabels predictor other item image) :
    isRight item = isRight image := by
  funext aspect
  exact h.gold.any_eq

end SameLabels

/-- The scores of two runs are the same, or neither has any. -/
def SameScores : Except Exn EvaluationScores → Except Exn EvaluationScores → Prop
  | .ok scores, .ok other => scores.classification = other.classification ∧
      scores.sentiment = other.sentiment ∧ scores.calibration = other.calibration
  | .error _, .error _ => True
  | _, _ => False

section Runs

variable {dataset rearranged : BenchmarkDataset} {predictor other : Predictor}
  (h : Rearranged (SameLabels predictor other) dataset.items rearranged.items)

include h

theorem labelUniverse_rearranged :
    labelUniverse dataset.goldCategories (Collected.of predictor dataset.items).predictedCategories
      = labelUniverse rearranged.goldCategories
          (Collected.of other rearranged.items).predictedCategories := by
  have hgold := h.flatMap_perm fun _ _ hsame => hsame.gold.map (·.categoryId)
  have hpredicted := h.flatMap_perm fun _ _ hsame => hsame.predicted.map (·.categoryId)
  refine sortedSet_congr fun label => ?_
  have hleft := hgold.mem_iff (a := label)
  have hright := hpredicted.mem_iff (a := label)
  simp only [List.flatMap_def] at hleft hright
  simp only [List.mem_append]
  exact or_congr hleft hright

theorem labelCounts_rearranged (label : String) :
    labelCounts (labelSets predictor dataset.items) label
      = labelCounts (labelSets other rearranged.items) label := by
  simp only [labelCounts, labelSets, List.countP_map, LabelCounts.mk.injEq]
  refine ⟨h.countP_eq ?_, h.countP_eq ?_, h.countP_eq ?_⟩ <;>
    · intro item image hsame
      simp only [Function.comp_apply, hsame.categoryIds label, hsame.predictedIds label]

theorem scoredSentiments_rearranged :
    (scoredSentiments predictor dataset.items).Perm (scoredSentiments other rearranged.items) :=
  h.flatMap_perm fun _ _ hsame => hsame.sentimentPairs

theorem scoredPredictions_rearranged :
    (scoredPredictions predictor dataset.items).Perm (scoredPredictions other rearranged.items) := by
  refine h.flatMap_perm fun _ _ hsame => ?_
  rw [hsame.isRight_eq]
  exact hsame.predicted.map _

theorem scores_rearranged :
    (EvaluationScores.of dataset predictor).classification
      = (EvaluationScores.of rearranged other).classification ∧
    (EvaluationScores.of dataset predictor).sentiment
      = (EvaluationScores.of rearranged other).sentiment ∧
    (EvaluationScores.of dataset predictor).calibration
      = (EvaluationScores.of rearranged other).calibration := by
  have hsentiments := scoredSentiments_rearranged h
  have hpredictions := scoredPredictions_rearranged h
  refine ⟨?_, ?_, ?_⟩
  · simp only [EvaluationScores.of, labelUniverse_rearranged h]
    exact ClassificationMetrics.of_congr (labelCounts_rearranged h) (by simp [labelSets, h.length_eq])
  · simp only [EvaluationScores.of, SentimentMetrics.of_perm hsentiments,
      ← List.length_eq_zero_iff, hsentiments.length_eq]
  · simp only [EvaluationScores.of, CalibrationMetrics.of_perm hpredictions,
      ← List.length_eq_zero_iff, hpredictions.length_eq]

end Runs

/-- **The scores of a run do not depend on order**: neither on that of the items, nor on that of an
item's gold aspects, nor on that of its predictions. -/
theorem scores_order_independent (repr : Python.Repr) (dataset rearranged : BenchmarkDataset)
    (predictor other : Predictor)
    (h : Rearranged (SameLabels predictor other) dataset.items rearranged.items) :
    SameScores (runEvaluation repr dataset predictor) (runEvaluation repr rearranged other) := by
  have hvalid := h.forall_iff fun _ _ hsame => hsame.validPrediction
  by_cases hall : ∀ item ∈ dataset.items, ValidPrediction (predictor.predict item)
  · rw [runEvaluation_eq repr hall, runEvaluation_eq repr (hvalid.mp hall)]
    exact scores_rearranged h
  · rcases hrun : runEvaluation repr dataset predictor with exc | scores
    · rcases hother : runEvaluation repr rearranged other with exc' | scores
      · trivial
      · exact absurd (hvalid.mpr (valid_of_runEvaluation hother)) hall
    · exact absurd (valid_of_runEvaluation hrun) hall

/-- `twoReviews` from the back to the front, with the aspects of the first exchanged. -/
def twoReviewsReversed : BenchmarkDataset where
  datasetVersion := "v1"
  taxonomyVersion := none
  items :=
    [emptyReview,
     { reviewId := "a", text := "Great food, rude staff."
       aspects := [rudeStaff, greatFood]
       one_sentiment_per_category := by decide }]
  items_are_present := nofun
  items_are_distinct := by decide

/-- `foodAndParking` with its predictions exchanged. -/
def parkingAfterFood : Predictor where
  name := "stub"
  version := none
  promptVersion := none
  predict item := (foodAndParking.predict item).reverse

theorem scores_order_independent_two_reviews :
    SameScores (runEvaluation ⟨id, fun _ => ""⟩ twoReviews foodAndParking)
      (runEvaluation ⟨id, fun _ => ""⟩ twoReviewsReversed parkingAfterFood) := by
  refine scores_order_independent _ _ _ _ _ ⟨twoReviewsReversed.items.reverse, ?_, .swap _ _ _⟩
  exact .cons ⟨.swap _ _ _, .swap _ _ _⟩ (.cons ⟨.refl _, .swap _ _ _⟩ .nil)

end ReviewSignal
