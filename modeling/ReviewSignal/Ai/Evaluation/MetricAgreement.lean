import ReviewSignal.Ai.Evaluation.CalibrationBounds
import ReviewSignal.Ai.Evaluation.Runner
import ReviewSignal.Ai.Evaluation.SentimentAgreement
import Mathlib.Algebra.BigOperators.Ring.Finset
import Mathlib.Data.Finset.Card

/-!
# The metric families of one run agree

The label counters, the pairs of sentiments and the buckets are three countings of the same
predictions.  Each is taken back to the gold aspects and the predicted ones of the items, one by one.

**`metric_families_agree`**, on every benchmark and every prediction `_validated` lets through:

* the true positives of the classification are the pairs the sentiments are scored on, and what it counts as
  gold and as predicted are the aspects of the benchmark and of the predictions;
* the calibration counts each prediction once, and as right those that the diagonal of the confusion matrix
  counts.

A family that cannot be measured is null, so its counts are taken to be zero (`pairCount` and the others);
this is what the equations need to hold in every case.  The code goes through the categories of an item in
alphabetical order in one place and in that of the predictions in another, and the counts do not depend on it
(`sentimentPairs_perm`).
-/

namespace ReviewSignal

/-! ## The pairs of sentiments

The pairs of one item, as the code collects them, against the join of its aspects. -/

theorem flatMap_filter {α β : Type} {l : List α} {p : α → Bool} {f : α → List β}
    (h : ∀ a ∈ l, p a = false → f a = []) : (l.filter p).flatMap f = l.flatMap f := by
  induction l with
  | nil => rfl
  | cons a l ih =>
      have htail := ih fun b hb => h b (List.mem_cons_of_mem _ hb)
      rcases hp : p a with _ | _
      · simp [hp, htail, h a List.mem_cons_self hp]
      · simp [hp, htail]

theorem sharedCategories_perm (item : BenchmarkItem) {aspects : List PredictedAspect}
    (hvalid : ValidPrediction aspects) : (sharedCategories item aspects).Perm
      ((aspects.map (·.categoryId)).filter (· ∈ item.categoryIds)) := by
  have hnodup := hvalid.distinct.filter (fun category => decide (category ∈ item.categoryIds))
  rw [sharedCategories, sortedSet, hnodup.dedup]
  exact List.perm_insertionSort _ _

/-- The code goes through the categories of both sides in another order than the predictions'. -/
theorem sentimentPairs_perm (item : BenchmarkItem) {aspects : List PredictedAspect}
    (hvalid : ValidPrediction aspects) : (sentimentPairs item aspects).Perm
      ((matched item aspects).map fun pair => (pair.1.sentiment, pair.2.sentiment)) := by
  refine List.Perm.map _ ?_
  refine ((sharedCategories_perm item hvalid).flatMap_right _).trans
    (List.Perm.of_eq (flatMap_filter fun category _ h => ?_))
  rw [List.eq_nil_iff_forall_not_mem]
  intro pair hpair
  obtain ⟨⟨hgold, hcategory⟩, -⟩ := mem_matchedIn.mp hpair
  exact absurd (List.mem_map.mpr ⟨pair.1, hgold, hcategory⟩) (of_decide_eq_false h)

/-- What a valid prediction matches with is a gold aspect of its category, when there is one. -/
theorem matchedIn_of_mem {item : BenchmarkItem} {aspects : List PredictedAspect}
    (hvalid : ValidPrediction aspects) {aspect : PredictedAspect} (h : aspect ∈ aspects) :
    matchedIn item aspects aspect.categoryId
      = (item.aspects.filter (·.categoryId = aspect.categoryId)).map (·, aspect) := by
  rw [matchedIn, Python.filter_key hvalid.distinct h]
  exact List.map_eq_flatMap.symm

theorem length_sentimentPairs (item : BenchmarkItem) {aspects : List PredictedAspect}
    (hvalid : ValidPrediction aspects) : (sentimentPairs item aspects).length
      = ((aspects.map (·.categoryId)).filter (· ∈ item.categoryIds)).length := by
  have hone : (sharedCategories item aspects).map
      (fun category => (matchedIn item aspects category).length)
        = (sharedCategories item aspects).map fun _ => 1 := by
    refine List.map_congr_left fun category hcategory => ?_
    obtain ⟨gold, -, aspect, -, -, -, hmatched⟩ := matchedIn_shared hvalid hcategory
    rw [hmatched]
    rfl
  rw [sentimentPairs, List.length_map, List.length_flatMap, hone]
  simp [(sharedCategories_perm item hvalid).length_eq]

/-- The pairs that agree are the predictions that are right. -/
theorem countP_matched (item : BenchmarkItem) {aspects : List PredictedAspect}
    (hvalid : ValidPrediction aspects) :
    (matched item aspects).countP (fun pair => pair.1.sentiment = pair.2.sentiment)
      = aspects.countP (isRight item) := by
  rw [matched, List.countP_flatMap, List.map_map, countP_eq_sum]
  refine congrArg List.sum (List.map_congr_left fun aspect haspect => ?_)
  simp only [Function.comp_apply, matchedIn_of_mem hvalid haspect, List.countP_map]
  split_ifs with hright
  · obtain ⟨gold, hgold, h⟩ := List.any_eq_true.mp hright
    obtain ⟨hcategory, hsentiment⟩ : gold.categoryId = aspect.categoryId
      ∧ gold.sentiment = aspect.sentiment := by simpa using h
    rw [← hcategory, Python.filter_key item.one_sentiment_per_category hgold]
    simp [hsentiment]
  · rw [List.countP_eq_zero]
    intro gold hgold hagree
    refine hright (List.any_eq_true.mpr ⟨gold, List.mem_of_mem_filter hgold, ?_⟩)
    simpa using ⟨by simpa using (List.mem_filter.mp hgold).2, by simpa using hagree⟩

/-! ## The run

The counts of each family over all items. -/

/-- The gold aspects of a benchmark. -/
def goldPairs (dataset : BenchmarkDataset) : List (String × String) :=
  dataset.items.flatMap fun item => item.aspects.map fun gold => (item.reviewId, gold.categoryId)

/-- The aspects predicted for a benchmark. -/
def predictedPairs (dataset : BenchmarkDataset) (predictor : Predictor) : List (String × String) :=
  dataset.items.flatMap fun item =>
    (predictor.predict item).map fun aspect => (item.reviewId, aspect.categoryId)

/-- The number of pairs of an item and a category that are in both. -/
def sharedPairCount (dataset : BenchmarkDataset) (predictor : Predictor) : ℕ :=
  ((goldPairs dataset).toFinset ∩ (predictedPairs dataset predictor).toFinset).card

theorem sharedPairCount_eq {dataset : BenchmarkDataset} {predictor : Predictor}
    (hvalid : ∀ item ∈ dataset.items, ValidPrediction (predictor.predict item)) :
    sharedPairCount dataset predictor = (dataset.items.map fun item =>
      (((predictor.predict item).map (·.categoryId)).filter (· ∈ item.categoryIds)).length).sum := by
  have hdistinct : dataset.items.Pairwise fun item other => item.reviewId ≠ other.reviewId :=
    List.pairwise_map.mp dataset.items_are_distinct
  have hnodup : (predictedPairs dataset predictor).Nodup := by
    refine List.nodup_flatMap.mpr ⟨fun item hitem => ?_, hdistinct.imp fun {item other} hne => ?_⟩
    · refine List.Nodup.of_map Prod.snd ?_
      simpa [Function.comp_def] using (hvalid item hitem).distinct
    · intro pair hpair hother
      obtain ⟨_, _, rfl⟩ := List.mem_map.mp hpair
      obtain ⟨_, _, hsame⟩ := List.mem_map.mp hother
      exact hne (congrArg Prod.fst hsame).symm
  have hmem (item : BenchmarkItem) (hitem : item ∈ dataset.items) (category : String) :
      (item.reviewId, category) ∈ goldPairs dataset ↔ category ∈ item.categoryIds := by
    simp only [goldPairs, BenchmarkItem.categoryIds, List.mem_flatMap, List.mem_map, Prod.mk.injEq]
    constructor
    · rintro ⟨other, hother, gold, hgold, hreview, hcategory⟩
      have hsame : other = item :=
        List.inj_on_of_nodup_map dataset.items_are_distinct hother hitem hreview
      exact ⟨gold, hsame ▸ hgold, hcategory⟩
    · rintro ⟨gold, hgold, hcategory⟩
      exact ⟨item, hitem, gold, hgold, rfl, hcategory⟩
  have hinter : (goldPairs dataset).toFinset ∩ (predictedPairs dataset predictor).toFinset
      = ((predictedPairs dataset predictor).filter (· ∈ goldPairs dataset)).toFinset := by
    ext pair
    simp [and_comm]
  rw [sharedPairCount, hinter, List.toFinset_card_of_nodup (hnodup.filter _), predictedPairs,
    List.filter_flatMap, List.length_flatMap]
  refine congrArg List.sum (List.map_congr_left fun item hitem => ?_)
  simp only [List.filter_map, List.length_map]
  exact congrArg List.length (List.filter_congr fun aspect _ => by simp [hmem item hitem])

/-- The number of gold aspects. -/
def goldAspectCount (dataset : BenchmarkDataset) : ℕ :=
  (dataset.items.map (·.aspects.length)).sum

/-- The number of predicted aspects. -/
def predictedAspectCount (dataset : BenchmarkDataset) (predictor : Predictor) : ℕ :=
  (dataset.items.map fun item => (predictor.predict item).length).sum

namespace EvaluationScores

/-- `calibration.prediction_count` -/
def predictionCount (scores : EvaluationScores) : ℕ := scores.calibration.elim 0 (·.predictionCount)

/-- `sentiment.pair_count` -/
def pairCount (scores : EvaluationScores) : ℕ := scores.sentiment.elim 0 (·.pairCount)

/-- The correct predictions, by the buckets. -/
def calibratedCorrect (scores : EvaluationScores) : ℚ :=
  scores.calibration.elim 0 fun calibration =>
    (calibration.buckets.map fun bucket => (bucket.count : ℚ) * bucket.accuracy).sum

/-- The correct predictions, by the accuracy of the sentiments. -/
def sentimentCorrect (scores : EvaluationScores) : ℚ :=
  scores.sentiment.elim 0 fun sentiment => sentiment.accuracy * sentiment.pairCount

/-- The diagonal of the confusion matrix. -/
def diagonal (scores : EvaluationScores) : ℕ :=
  scores.sentiment.elim 0 fun sentiment =>
    (sentiment.confusion.map fun row => (Python.get row.2 row.1).getD 0).sum

end EvaluationScores

/-- What the metric families have in common. -/
structure FamiliesAgree (dataset : BenchmarkDataset) (predictor : Predictor)
    (scores : EvaluationScores) : Prop where
  support : scores.classification.micro.support = goldAspectCount dataset
  prediction_count : scores.predictionCount = predictedAspectCount dataset predictor
  calibration_none : scores.calibration = none ↔ predictedAspectCount dataset predictor = 0
  pair_count : scores.pairCount = sharedPairCount dataset predictor
  sentiment_none : scores.sentiment = none ↔ sharedPairCount dataset predictor = 0
  by_precision : (scores.pairCount : ℚ)
    = scores.classification.micro.precision * predictedAspectCount dataset predictor
  by_recall : (scores.pairCount : ℚ)
    = scores.classification.micro.recalled * scores.classification.micro.support
  correct : scores.calibratedCorrect = scores.sentimentCorrect
  on_diagonal : scores.sentimentCorrect = scores.diagonal

section Valid

variable {dataset : BenchmarkDataset} {predictor : Predictor}
  (hvalid : ∀ item ∈ dataset.items, ValidPrediction (predictor.predict item))

include hvalid

theorem length_scoredSentiments :
    (scoredSentiments predictor dataset.items).length = sharedPairCount dataset predictor := by
  rw [sharedPairCount_eq hvalid, scoredSentiments, List.length_flatMap]
  exact congrArg List.sum (List.map_congr_left fun item hitem =>
    length_sentimentPairs item (hvalid item hitem))

theorem agreements_scoredSentiments : agreements (scoredSentiments predictor dataset.items)
    = (scoredPredictions predictor dataset.items).countP (·.2) := by
  rw [agreements_eq fun pair hpair => (scoredSentiments_known hvalid hpair).1, scoredSentiments,
    scoredPredictions, List.countP_flatMap, List.countP_flatMap]
  refine congrArg List.sum (List.map_congr_left fun item hitem => ?_)
  rw [Function.comp_apply, (sentimentPairs_perm item (hvalid item hitem)).countP_eq,
    List.countP_map]
  exact (countP_matched item (hvalid item hitem)).trans (by simp [List.countP_map, Function.comp_def])

theorem micro_of : ∃ falsePositives falseNegatives,
    (EvaluationScores.of dataset predictor).classification.micro
      = .ofCounts (sharedPairCount dataset predictor) falsePositives falseNegatives ∧
    sharedPairCount dataset predictor + falsePositives = predictedAspectCount dataset predictor ∧
    sharedPairCount dataset predictor + falseNegatives = goldAspectCount dataset := by
  set labels := labelUniverse dataset.goldCategories
    (Collected.of predictor dataset.items).predictedCategories with hlabels
  have hnodup : labels.Nodup := labelUniverse_nodup _ _
  have hgold : ∀ item ∈ labelSets predictor dataset.items, item.1 ⊆ labels := by
    intro sets hsets label hlabel
    obtain ⟨item, hitem, rfl⟩ := List.mem_map.mp hsets
    exact mem_labelUniverse.mpr (.inl ⟨_, List.mem_map.mpr ⟨item, hitem, rfl⟩, hlabel⟩)
  have hpredicted : ∀ item ∈ labelSets predictor dataset.items, item.2 ⊆ labels := by
    intro sets hsets label hlabel
    obtain ⟨item, hitem, rfl⟩ := List.mem_map.mp hsets
    exact mem_labelUniverse.mpr (.inr ⟨_, List.mem_map.mpr ⟨item, hitem, rfl⟩, hlabel⟩)
  have hshared : (microCounts (labelSets predictor dataset.items) labels).truePositives
      = sharedPairCount dataset predictor := by
    rw [microCounts_shared hnodup hpredicted, sharedPairCount_eq hvalid, labelSets, List.map_map]
    refine congrArg List.sum (List.map_congr_left fun item hitem => ?_)
    rw [Function.comp_apply, ← List.toFinset_card_of_nodup ((hvalid item hitem).distinct.filter _)]
    congr 1
    ext category
    simp [and_comm]
  refine ⟨(microCounts (labelSets predictor dataset.items) labels).falsePositives,
    (microCounts (labelSets predictor dataset.items) labels).falseNegatives, ?_, ?_, ?_⟩
  · rw [← hshared]
    rfl
  · rw [← hshared, microCounts_predicted hnodup hpredicted, labelSets, List.map_map]
    refine congrArg List.sum (List.map_congr_left fun item hitem => ?_)
    simpa using List.toFinset_card_of_nodup (hvalid item hitem).distinct
  · rw [← hshared, microCounts_gold hnodup hgold, labelSets, List.map_map]
    refine congrArg List.sum (List.map_congr_left fun item _ => ?_)
    simpa [BenchmarkItem.categoryIds] using
      List.toFinset_card_of_nodup item.one_sentiment_per_category

omit hvalid in
theorem length_scoredPredictions :
    (scoredPredictions predictor dataset.items).length = predictedAspectCount dataset predictor := by
  simp [scoredPredictions, predictedAspectCount, List.length_flatMap]

theorem calibratedCorrect_of : (EvaluationScores.of dataset predictor).calibratedCorrect
    = (scoredPredictions predictor dataset.items).countP (·.2) := by
  rw [EvaluationScores.calibratedCorrect, EvaluationScores.of]
  dsimp only
  split_ifs with h
  · simp [h]
  · exact sum_bucket_accuracy (by decide) fun prediction hprediction =>
      (scoredPredictions_inRange hvalid hprediction).1

omit hvalid in
theorem sentimentCorrect_of : (EvaluationScores.of dataset predictor).sentimentCorrect
    = agreements (scoredSentiments predictor dataset.items) := by
  rw [EvaluationScores.sentimentCorrect, EvaluationScores.of]
  dsimp only
  split_ifs with h
  · simp [h, agreements]
  · have hlength : ((scoredSentiments predictor dataset.items).length : ℚ) ≠ 0 := by simpa using h
    exact div_mul_cancel₀ _ hlength

omit hvalid in
theorem diagonal_of : (EvaluationScores.of dataset predictor).diagonal
    = agreements (scoredSentiments predictor dataset.items) := by
  rw [EvaluationScores.diagonal, EvaluationScores.of]
  dsimp only
  split_ifs with h
  · simp [h, agreements]
  · simp only [Option.elim, SentimentMetrics.of, Confusion.table, List.map_map, agreements]
    refine congrArg List.sum (List.map_congr_left fun label hlabel => ?_)
    rw [Function.comp_apply, Python.get_table hlabel, Option.getD_some]

omit hvalid in
theorem pairCount_of : (EvaluationScores.of dataset predictor).pairCount
    = (scoredSentiments predictor dataset.items).length := by
  rw [EvaluationScores.pairCount, EvaluationScores.of]
  dsimp only
  split_ifs with h
  · simp [h]
  · rfl

omit hvalid in
theorem predictionCount_of : (EvaluationScores.of dataset predictor).predictionCount
    = predictedAspectCount dataset predictor := by
  rw [EvaluationScores.predictionCount, EvaluationScores.of, ← length_scoredPredictions]
  dsimp only
  split_ifs with h
  · simp [h]
  · rfl

theorem familiesAgree_of : FamiliesAgree dataset predictor (.of dataset predictor) := by
  obtain ⟨falsePositives, falseNegatives, hmicro, hpredicted, hgold⟩ := micro_of hvalid
  have hratios := Score.ofCounts_mul (sharedPairCount dataset predictor) falsePositives
    falseNegatives
  have hcount : (EvaluationScores.of dataset predictor).pairCount
      = sharedPairCount dataset predictor := pairCount_of.trans (length_scoredSentiments hvalid)
  refine ⟨?_, predictionCount_of, ?_, hcount, ?_, ?_, ?_, ?_, ?_⟩
  · rw [hmicro, ← hgold]
    rfl
  · rw [← length_scoredPredictions, List.length_eq_zero_iff]
    simp [EvaluationScores.of]
  · rw [← length_scoredSentiments hvalid, List.length_eq_zero_iff]
    simp [EvaluationScores.of]
  · rw [hcount, hmicro, ← hpredicted, hratios.1]
  · rw [hcount, hmicro, hratios.2]
  · rw [calibratedCorrect_of hvalid, sentimentCorrect_of, agreements_scoredSentiments hvalid]
  · rw [sentimentCorrect_of, diagonal_of]

end Valid

/-- **The metric families of one run agree**, on every benchmark and every prediction `_validated`
lets through. -/
theorem metric_families_agree (repr : Python.Repr) (dataset : BenchmarkDataset)
    (predictor : Predictor) (hvalidated : ∀ item ∈ dataset.items, ∃ aspects,
      validated repr (predictor.predict item) item.reviewId = .ok aspects) :
    ∃ scores, runEvaluation repr dataset predictor = .ok scores ∧
      FamiliesAgree dataset predictor scores := by
  have hvalid : ∀ item ∈ dataset.items, ValidPrediction (predictor.predict item) := by
    intro item hitem
    obtain ⟨aspects, haspects⟩ := hvalidated item hitem
    exact (validated_eq_ok.mp haspects).1
  exact ⟨_, runEvaluation_eq repr hvalid, familiesAgree_of hvalid⟩

def greatFood : GoldAspect := ⟨"food", "positive", by decide⟩

def rudeStaff : GoldAspect := ⟨"service", "negative", by decide⟩

def emptyReview : BenchmarkItem where
  reviewId := "b"
  text := ""
  aspects := []
  one_sentiment_per_category := by decide

/-- A review with two aspects and one with none. -/
def twoReviews : BenchmarkDataset where
  datasetVersion := "v1"
  taxonomyVersion := none
  items :=
    [{ reviewId := "a", text := "Great food, rude staff."
       aspects := [greatFood, rudeStaff]
       one_sentiment_per_category := by decide },
     emptyReview]
  items_are_present := nofun
  items_are_distinct := by decide

/-- A predictor that finds the food, and parking that no review is about. -/
def foodAndParking : Predictor where
  name := "stub"
  version := none
  promptVersion := none
  predict _ := [⟨"parking", "neutral", 1 / 2⟩, ⟨"food", "positive", 9 / 10⟩]

theorem metric_families_agree_two_reviews : ∃ scores,
    runEvaluation ⟨id, fun _ => ""⟩ twoReviews foodAndParking = .ok scores ∧
      FamiliesAgree twoReviews foodAndParking scores := by
  have hvalid : ValidPrediction [⟨"parking", "neutral", 1 / 2⟩, ⟨"food", "positive", 9 / 10⟩] :=
    ⟨by decide, by decide, by decide +kernel⟩
  exact metric_families_agree ⟨id, fun _ => ""⟩ twoReviews foodAndParking fun item _ =>
    ⟨_, validated_of_valid item.reviewId hvalid⟩

end ReviewSignal
