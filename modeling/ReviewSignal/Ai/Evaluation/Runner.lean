import ReviewSignal.Ai.Evaluation.Calibration
import ReviewSignal.Ai.Evaluation.Classification
import ReviewSignal.Ai.Evaluation.Sentiment

/-!
# Running a benchmark

`ai/evaluation/runner.py`.  What the loop collects is stated with the join of an item's gold aspects
with what was predicted for it (`matched`), in the order of the predictions; the code goes through
the same categories in alphabetical order.

* `validated_eq_ok` — `_validated` returns exactly the valid predictions, as they are: of known sentiments, of
  confidences in range, and of no two categories that are the same.
* `foldlM_collectItem` — what the loop has after items whose predictions are valid; and
  `foldlM_collectItem_error`, that an invalid one ends it with the error of `_validated`.
* **`runEvaluation_eq`** — the value of `run_evaluation` on valid predictions, as a function of the items.

The results about runs use the last equation and never open the loop.  It needs the validators of the
dataset: a shared category is that of one gold aspect and of one prediction (`matchedIn_shared`), which makes
the dictionary lookups of the loop succeed and mean what they should.
-/

namespace ReviewSignal

/-- `EvaluationResult`, with its metric families. -/
structure EvaluationScores where
  datasetVersion : String
  taxonomyVersion : Option String
  modelName : String
  modelVersion : Option String
  promptVersion : Option String
  classification : ClassificationMetrics
  sentiment : Option SentimentMetrics
  calibration : Option CalibrationMetrics

/-- One round of the loop of `_validated`. -/
def checkAspect (repr : Python.Repr) (aspect : PredictedAspect) : Except Exn Unit :=
  if aspect.sentiment ∉ sentiments then
    .error ⟨"ValueError", "unknown sentiment: " ++ repr.str aspect.sentiment⟩
  else if ¬ (0 ≤ aspect.confidence ∧ aspect.confidence ≤ 1) then
    .error ⟨"ValueError", "confidence out of range: " ++ repr.float aspect.confidence⟩
  else .ok ()

/-- `_validated` -/
def validated (repr : Python.Repr) (aspects : List PredictedAspect) (reviewId : String) :
    Except Exn (List PredictedAspect) := do
  let categories := aspects.map (·.categoryId)
  if categories.length ≠ categories.dedup.length then
    .error ⟨"ValueError", "duplicate category_id predicted for review " ++ repr.str reviewId⟩
  else
    forM aspects (checkAspect repr)
    pure aspects

/-- The lists of `run_evaluation`. -/
structure Collected where
  predictedCategories : List (List String) := []
  goldSentiments : List String := []
  predictedSentiments : List String := []
  confidences : List ℚ := []
  correct : List Bool := []
  deriving DecidableEq

/-- One round of the loop over the shared categories. -/
def collectSentiment (gold : List (String × String)) (predicted : List (String × PredictedAspect))
    (collected : Collected) (categoryId : String) : Except Exn Collected := do
  let goldSentiment ← Python.item gold categoryId
  let aspect ← Python.item predicted categoryId
  pure { collected with
    goldSentiments := collected.goldSentiments ++ [goldSentiment]
    predictedSentiments := collected.predictedSentiments ++ [aspect.sentiment] }

/-- One round of the loop over the predicted aspects. -/
def collectAspect (gold : List (String × String)) (collected : Collected)
    (aspect : PredictedAspect) : Collected :=
  { collected with
    confidences := collected.confidences ++ [aspect.confidence]
    correct := collected.correct ++ [decide (Python.get gold aspect.categoryId = some aspect.sentiment)] }

/-- One round of the loop over the items. -/
def collectItem (repr : Python.Repr) (predictor : Predictor) (collected : Collected)
    (item : BenchmarkItem) : Except Exn Collected := do
  let aspects ← validated repr (predictor.predict item) item.reviewId
  -- no entry of this dictionary replaces another: the categories are distinct
  let predicted := aspects.map fun aspect => (aspect.categoryId, aspect)
  let gold := item.sentimentByCategory
  let shared := (predicted.map (·.1)).filter (· ∈ gold.map (·.1))
  let collected ← (sortedSet shared).foldlM (collectSentiment gold predicted)
    { collected with
      predictedCategories := collected.predictedCategories ++ [predicted.map (·.1)] }
  pure (aspects.foldl (collectAspect gold) collected)

/-- `sentiment_metrics(gold_sentiments, predicted_sentiments) if gold_sentiments else None` -/
def Collected.sentiment (repr : Python.Repr) (collected : Collected) :
    Except Exn (Option SentimentMetrics) :=
  if collected.goldSentiments ≠ [] then
    some <$> sentimentMetrics repr collected.goldSentiments collected.predictedSentiments
  else .ok none

/-- `calibration_metrics(confidences, correct) if confidences else None` -/
def Collected.calibration (repr : Python.Repr) (collected : Collected) :
    Except Exn (Option CalibrationMetrics) :=
  if collected.confidences ≠ [] then
    some <$> calibrationMetrics repr collected.confidences collected.correct
  else .ok none

/-- `run_evaluation` -/
def runEvaluation (repr : Python.Repr) (dataset : BenchmarkDataset) (predictor : Predictor) :
    Except Exn EvaluationScores := do
  let collected ← dataset.items.foldlM (collectItem repr predictor) {}
  let classification ← classificationMetrics dataset.goldCategories collected.predictedCategories
  let sentiment ← collected.sentiment repr
  let calibration ← collected.calibration repr
  pure { datasetVersion := dataset.datasetVersion, taxonomyVersion := dataset.taxonomyVersion
         modelName := predictor.name, modelVersion := predictor.version
         promptVersion := predictor.promptVersion, classification, sentiment, calibration }

/-! ## The prediction validator

The loop of `_validated` as a predicate on what it is given. -/

/-- What `_validated` lets through. -/
structure ValidPrediction (aspects : List PredictedAspect) : Prop where
  distinct : (aspects.map (·.categoryId)).Nodup
  known : ∀ aspect ∈ aspects, aspect.sentiment ∈ sentiments
  inRange : ∀ aspect ∈ aspects, 0 ≤ aspect.confidence ∧ aspect.confidence ≤ 1

theorem checkAspect_eq_ok {repr : Python.Repr} {aspect : PredictedAspect} :
    checkAspect repr aspect = .ok () ↔
      aspect.sentiment ∈ sentiments ∧ 0 ≤ aspect.confidence ∧ aspect.confidence ≤ 1 := by
  rw [checkAspect]
  split_ifs with hsentiment hconfidence
  · simp [hsentiment, hconfidence]
  · simp [hsentiment, hconfidence]
  · simp [hsentiment]

/-- **`_validated` returns exactly the valid predictions, as they are.** -/
theorem validated_eq_ok {repr : Python.Repr} {aspects checked : List PredictedAspect}
    {reviewId : String} :
    validated repr aspects reviewId = .ok checked ↔ ValidPrediction aspects ∧ checked = aspects := by
  have hdistinct : (aspects.map (·.categoryId)).length
      = (aspects.map (·.categoryId)).dedup.length ↔ (aspects.map (·.categoryId)).Nodup := by
    rw [eq_comm, ← List.dedup_eq_self]
    exact ⟨(List.dedup_sublist _).eq_of_length, fun h => congrArg List.length h⟩
  have hchecks : forM aspects (checkAspect repr) = .ok () ↔ ∀ aspect ∈ aspects,
      aspect.sentiment ∈ sentiments ∧ 0 ≤ aspect.confidence ∧ aspect.confidence ≤ 1 := by
    rw [forM_eq_ok]
    simp only [checkAspect_eq_ok]
  rw [validated]
  split_ifs with h
  · rw [ne_eq, hdistinct] at h
    exact iff_of_false nofun fun hvalid => h hvalid.1.distinct
  · rw [not_not, hdistinct] at h
    rcases hrun : forM aspects (checkAspect repr) with exc | ⟨⟩
    · refine iff_of_false nofun fun hvalid => ?_
      rw [hchecks.mpr fun a ha => ⟨hvalid.1.known a ha, hvalid.1.inRange a ha⟩] at hrun
      cases hrun
    · have hall := hchecks.mp hrun
      have hvalid : ValidPrediction aspects :=
        ⟨h, fun a ha => (hall a ha).1, fun a ha => (hall a ha).2⟩
      simp [bind, Except.bind, pure, Except.pure, hvalid, eq_comm]

theorem validated_of_valid {repr : Python.Repr} {aspects : List PredictedAspect} (reviewId : String)
    (h : ValidPrediction aspects) : validated repr aspects reviewId = .ok aspects :=
  validated_eq_ok.mpr ⟨h, rfl⟩

/-! ## What one item adds

One round of the loop: the label sets, the pairs of sentiments, the confidences and what was right. -/

/-- The gold aspects and the predicted ones of one category. -/
def matchedIn (item : BenchmarkItem) (aspects : List PredictedAspect) (categoryId : String) :
    List (GoldAspect × PredictedAspect) :=
  item.aspects.filter (·.categoryId = categoryId) ×ˢ aspects.filter (·.categoryId = categoryId)

/-- The gold aspects and the predicted ones which share their category. -/
def matched (item : BenchmarkItem) (aspects : List PredictedAspect) :
    List (GoldAspect × PredictedAspect) :=
  (aspects.map (·.categoryId)).flatMap (matchedIn item aspects)

/-- The categories of both sides, as the code goes through them. -/
def sharedCategories (item : BenchmarkItem) (aspects : List PredictedAspect) : List String :=
  sortedSet ((aspects.map (·.categoryId)).filter (· ∈ item.categoryIds))

/-- The pairs of sentiments of an item, in the order of `sharedCategories`. -/
def sentimentPairs (item : BenchmarkItem) (aspects : List PredictedAspect) :
    List (String × String) :=
  ((sharedCategories item aspects).flatMap (matchedIn item aspects)).map fun pair =>
    (pair.1.sentiment, pair.2.sentiment)

/-- Whether both the category and the sentiment of a prediction are right. -/
def isRight (item : BenchmarkItem) (aspect : PredictedAspect) : Bool :=
  item.aspects.any fun gold =>
    gold.categoryId = aspect.categoryId ∧ gold.sentiment = aspect.sentiment

/-- What the loop has after some items. -/
def Collected.of (predictor : Predictor) (items : List BenchmarkItem) : Collected where
  predictedCategories := items.map fun item => (predictor.predict item).map (·.categoryId)
  goldSentiments := items.flatMap fun item =>
    (sentimentPairs item (predictor.predict item)).map (·.1)
  predictedSentiments := items.flatMap fun item =>
    (sentimentPairs item (predictor.predict item)).map (·.2)
  confidences := items.flatMap fun item => (predictor.predict item).map (·.confidence)
  correct := items.flatMap fun item => (predictor.predict item).map (isRight item)

theorem mem_matchedIn {item : BenchmarkItem} {aspects : List PredictedAspect} {categoryId : String}
    {pair : GoldAspect × PredictedAspect} : pair ∈ matchedIn item aspects categoryId ↔
      (pair.1 ∈ item.aspects ∧ pair.1.categoryId = categoryId) ∧
        pair.2 ∈ aspects ∧ pair.2.categoryId = categoryId := by
  rw [matchedIn, List.mem_product]
  simp

theorem sentimentByCategory_keys (item : BenchmarkItem) :
    item.sentimentByCategory.map (·.1) = item.categoryIds := by
  simp [BenchmarkItem.sentimentByCategory, BenchmarkItem.categoryIds, Function.comp_def]

theorem get_sentimentByCategory (item : BenchmarkItem) (aspect : PredictedAspect) :
    decide (Python.get item.sentimentByCategory aspect.categoryId = some aspect.sentiment)
      = isRight item aspect := by
  rw [Bool.eq_iff_iff, decide_eq_true_iff, isRight, List.any_eq_true, Python.get,
    BenchmarkItem.sentimentByCategory]
  constructor
  · intro h
    obtain ⟨entry, hentry, hsentiment⟩ := Option.map_eq_some_iff.mp h
    obtain ⟨gold, hgold, rfl⟩ := List.mem_map.mp (List.mem_of_find?_eq_some hentry)
    have hkey := List.find?_some hentry
    exact ⟨gold, hgold, by simpa using ⟨by simpa using hkey, hsentiment⟩⟩
  · rintro ⟨gold, hgold, h⟩
    obtain ⟨hcategory, hsentiment⟩ : gold.categoryId = aspect.categoryId
      ∧ gold.sentiment = aspect.sentiment := by simpa using h
    rw [← hcategory, Python.find_entry item.one_sentiment_per_category hgold, ← hsentiment]
    rfl

/-- A shared category is that of one gold aspect and of one prediction. -/
theorem matchedIn_shared {item : BenchmarkItem} {aspects : List PredictedAspect}
    (hvalid : ValidPrediction aspects) {categoryId : String}
    (h : categoryId ∈ sharedCategories item aspects) : ∃ gold ∈ item.aspects, ∃ aspect ∈ aspects,
      gold.categoryId = categoryId ∧ aspect.categoryId = categoryId ∧
        matchedIn item aspects categoryId = [(gold, aspect)] := by
  rw [sharedCategories, mem_sortedSet, List.mem_filter, decide_eq_true_iff] at h
  obtain ⟨aspect, haspect, rfl⟩ := List.mem_map.mp h.1
  obtain ⟨gold, hgold, hcategory⟩ := List.mem_map.mp h.2
  refine ⟨gold, hgold, aspect, haspect, hcategory, rfl, ?_⟩
  rw [matchedIn, Python.filter_key hvalid.distinct haspect, ← hcategory,
    Python.filter_key item.one_sentiment_per_category hgold]
  rfl

/-- The loop over the shared categories. -/
theorem foldlM_collectSentiment {item : BenchmarkItem} {aspects : List PredictedAspect}
    (hvalid : ValidPrediction aspects) {categories : List String}
    (h : ∀ categoryId ∈ categories, categoryId ∈ sharedCategories item aspects)
    (collected : Collected) :
    categories.foldlM (collectSentiment item.sentimentByCategory
        (aspects.map fun aspect => (aspect.categoryId, aspect))) collected = .ok
      { collected with
        goldSentiments := collected.goldSentiments ++
          (categories.flatMap (matchedIn item aspects)).map (·.1.sentiment)
        predictedSentiments := collected.predictedSentiments ++
          (categories.flatMap (matchedIn item aspects)).map (·.2.sentiment) } := by
  induction categories generalizing collected with
  | nil => simp [pure, Except.pure]
  | cons categoryId categories ih =>
      obtain ⟨gold, hgold, aspect, haspect, hcategory, rfl, hmatched⟩ :=
        matchedIn_shared hvalid (h categoryId List.mem_cons_self)
      have hgoldItem : Python.item item.sentimentByCategory aspect.categoryId
          = .ok gold.sentiment := by
        rw [BenchmarkItem.sentimentByCategory, ← hcategory]
        exact Python.item_entry item.one_sentiment_per_category hgold
      have haspectItem : Python.item (aspects.map fun aspect => (aspect.categoryId, aspect))
          aspect.categoryId = .ok aspect := Python.item_entry hvalid.distinct haspect
      rw [List.foldlM_cons]
      simp only [collectSentiment, hgoldItem, haspectItem, bind, Except.bind, pure, Except.pure]
      rw [ih fun c hc => h c (List.mem_cons_of_mem _ hc)]
      simp [hmatched]

theorem foldl_collectAspect (item : BenchmarkItem) (aspects : List PredictedAspect)
    (collected : Collected) :
    aspects.foldl (collectAspect item.sentimentByCategory) collected =
      { collected with
        confidences := collected.confidences ++ aspects.map (·.confidence)
        correct := collected.correct ++ aspects.map (isRight item) } := by
  induction aspects generalizing collected with
  | nil => simp
  | cons aspect aspects ih =>
      rw [List.foldl_cons, ih]
      simp [collectAspect, get_sentimentByCategory]

/-- The step of the loop, on a valid prediction. -/
theorem collectItem_of (repr : Python.Repr) {predictor : Predictor} (items : List BenchmarkItem)
    {item : BenchmarkItem} (hvalid : ValidPrediction (predictor.predict item)) :
    collectItem repr predictor (.of predictor items) item = .ok (.of predictor (items ++ [item])) := by
  have hkeys : ((predictor.predict item).map fun aspect => (aspect.categoryId, aspect)).map (·.1)
      = (predictor.predict item).map (·.categoryId) := by simp [Function.comp_def]
  have hshared : sortedSet (((predictor.predict item).map (·.categoryId)).filter
      (· ∈ item.categoryIds)) = sharedCategories item (predictor.predict item) := rfl
  simp only [collectItem, validated_of_valid _ hvalid, hkeys, sentimentByCategory_keys, hshared,
    foldlM_collectSentiment hvalid fun _ hc => hc, bind, Except.bind]
  simp [foldl_collectAspect, Collected.of, sentimentPairs, pure, Except.pure, Function.comp_def]

/-- An invalid prediction ends the loop. -/
theorem collectItem_invalid (repr : Python.Repr) {predictor : Predictor} (collected : Collected)
    {item : BenchmarkItem} (hvalid : ¬ ValidPrediction (predictor.predict item)) :
    ∃ exc, validated repr (predictor.predict item) item.reviewId = .error exc ∧
      collectItem repr predictor collected item = .error exc := by
  rcases h : validated repr (predictor.predict item) item.reviewId with exc | aspects
  · exact ⟨exc, rfl, by simp [collectItem, h, bind, Except.bind]⟩
  · exact absurd (validated_eq_ok.mp h).1 hvalid

/-- **The loop on valid predictions.** -/
theorem foldlM_collectItem (repr : Python.Repr) {predictor : Predictor}
    {items : List BenchmarkItem}
    (hvalid : ∀ item ∈ items, ValidPrediction (predictor.predict item)) :
    items.foldlM (collectItem repr predictor) {} = .ok (.of predictor items) := by
  induction items using List.reverseRecOn with
  | nil => rfl
  | append_singleton items item ih =>
      rw [List.foldlM_append, ih fun i hi => hvalid i (List.mem_append_left _ hi)]
      simp only [bind, Except.bind, List.foldlM_cons, List.foldlM_nil,
        collectItem_of repr items (hvalid item (by simp))]
      rfl

/-- **The loop fails on an invalid prediction only**, with the error of `_validated`. -/
theorem foldlM_collectItem_error {repr : Python.Repr} {predictor : Predictor}
    {items : List BenchmarkItem} (done : List BenchmarkItem) {exc : Exn}
    (hrun : items.foldlM (collectItem repr predictor) (.of predictor done) = .error exc) :
    ∃ item ∈ items, ¬ ValidPrediction (predictor.predict item) ∧
      validated repr (predictor.predict item) item.reviewId = .error exc := by
  induction items generalizing done with
  | nil => cases hrun
  | cons item items ih =>
      rw [List.foldlM_cons] at hrun
      by_cases hitem : ValidPrediction (predictor.predict item)
      · rw [collectItem_of repr done hitem] at hrun
        obtain ⟨failing, hfailing, hinvalid⟩ := ih (done ++ [item]) hrun
        exact ⟨failing, List.mem_cons_of_mem _ hfailing, hinvalid⟩
      · obtain ⟨raised, hvalidated, hcollect⟩ := collectItem_invalid repr (.of predictor done) hitem
        rw [hcollect] at hrun
        cases hrun
        exact ⟨item, List.mem_cons_self, hitem, hvalidated⟩

/-- A loop that comes to its end met valid predictions only. -/
theorem valid_of_foldlM_collectItem {repr : Python.Repr} {predictor : Predictor}
    {items : List BenchmarkItem} {collected result : Collected}
    (hrun : items.foldlM (collectItem repr predictor) collected = .ok result) :
    ∀ item ∈ items, ValidPrediction (predictor.predict item) := by
  induction items generalizing collected with
  | nil => nofun
  | cons item items ih =>
      rw [List.foldlM_cons] at hrun
      rcases hstep : collectItem repr predictor collected item with exc | next
      · rw [hstep] at hrun
        cases hrun
      · rw [hstep] at hrun
        have hitem : ValidPrediction (predictor.predict item) := by
          by_contra hinvalid
          obtain ⟨exc, -, hcollect⟩ := collectItem_invalid repr collected hinvalid
          rw [hcollect] at hstep
          cases hstep
        exact List.forall_mem_cons.mpr ⟨hitem, ih hrun⟩

/-! ## What one run returns

The metric functions on what the loop has collected, with the guards for an empty one. -/

/-- The label sets of both sides. -/
def labelSets (predictor : Predictor) (items : List BenchmarkItem) :
    List (List String × List String) :=
  items.map fun item => (item.categoryIds, (predictor.predict item).map (·.categoryId))

/-- The pairs of sentiments of a run. -/
def scoredSentiments (predictor : Predictor) (items : List BenchmarkItem) :
    List (String × String) :=
  items.flatMap fun item => sentimentPairs item (predictor.predict item)

/-- The predictions of a run, with their confidence and whether they were right. -/
def scoredPredictions (predictor : Predictor) (items : List BenchmarkItem) : List (ℚ × Bool) :=
  items.flatMap fun item => (predictor.predict item).map fun aspect =>
    (aspect.confidence, isRight item aspect)

/-- The scores of a run. -/
def EvaluationScores.of (dataset : BenchmarkDataset) (predictor : Predictor) :
    EvaluationScores where
  datasetVersion := dataset.datasetVersion
  taxonomyVersion := dataset.taxonomyVersion
  modelName := predictor.name
  modelVersion := predictor.version
  promptVersion := predictor.promptVersion
  classification := .of (labelSets predictor dataset.items)
    (labelUniverse dataset.goldCategories (Collected.of predictor dataset.items).predictedCategories)
  sentiment :=
    if scoredSentiments predictor dataset.items = [] then none
    else some (.of (scoredSentiments predictor dataset.items))
  calibration :=
    if scoredPredictions predictor dataset.items = [] then none
    else some (.of 10 (scoredPredictions predictor dataset.items))

theorem Collected.of_goldSentiments (predictor : Predictor) (items : List BenchmarkItem) :
    (Collected.of predictor items).goldSentiments
      = (scoredSentiments predictor items).map (·.1) := by
  simp [Collected.of, scoredSentiments, List.map_flatMap]

theorem Collected.of_predictedSentiments (predictor : Predictor) (items : List BenchmarkItem) :
    (Collected.of predictor items).predictedSentiments
      = (scoredSentiments predictor items).map (·.2) := by
  simp [Collected.of, scoredSentiments, List.map_flatMap]

theorem Collected.of_confidences (predictor : Predictor) (items : List BenchmarkItem) :
    (Collected.of predictor items).confidences
      = (scoredPredictions predictor items).map (·.1) := by
  simp [Collected.of, scoredPredictions, List.map_flatMap, Function.comp_def]

theorem Collected.of_correct (predictor : Predictor) (items : List BenchmarkItem) :
    (Collected.of predictor items).correct = (scoredPredictions predictor items).map (·.2) := by
  simp [Collected.of, scoredPredictions, List.map_flatMap, Function.comp_def]

theorem classification_collected (dataset : BenchmarkDataset) (predictor : Predictor) :
    classificationMetrics dataset.goldCategories
        (Collected.of predictor dataset.items).predictedCategories
      = .ok (EvaluationScores.of dataset predictor).classification := by
  have hpresent : dataset.goldCategories ≠ [] := by
    simpa [BenchmarkDataset.goldCategories] using dataset.items_are_present
  rw [classificationMetrics_eq (by simp [BenchmarkDataset.goldCategories, Collected.of]) hpresent]
  simp [EvaluationScores.of, labelSets, BenchmarkDataset.goldCategories, Collected.of, List.zip_map']

section Valid

variable {predictor : Predictor} {items : List BenchmarkItem}
  (hvalid : ∀ item ∈ items, ValidPrediction (predictor.predict item))

include hvalid

theorem scoredSentiments_known {pair : String × String}
    (h : pair ∈ scoredSentiments predictor items) :
    pair.1 ∈ sentiments ∧ pair.2 ∈ sentiments := by
  rw [scoredSentiments, List.mem_flatMap] at h
  obtain ⟨item, hitem, hpair⟩ := h
  simp only [sentimentPairs, List.mem_map, List.mem_flatMap, mem_matchedIn] at hpair
  obtain ⟨⟨gold, aspect⟩, ⟨_, -, -, haspect, -⟩, rfl⟩ := hpair
  exact ⟨gold.sentiment_is_known, (hvalid item hitem).known aspect haspect⟩

theorem scoredPredictions_inRange {prediction : ℚ × Bool}
    (h : prediction ∈ scoredPredictions predictor items) :
    0 ≤ prediction.1 ∧ prediction.1 ≤ 1 := by
  simp only [scoredPredictions, List.mem_flatMap, List.mem_map] at h
  obtain ⟨item, hitem, aspect, haspect, rfl⟩ := h
  exact (hvalid item hitem).inRange aspect haspect

theorem sentiment_collected (repr : Python.Repr) :
    (Collected.of predictor items).sentiment repr =
      .ok (if scoredSentiments predictor items = [] then none
        else some (.of (scoredSentiments predictor items))) := by
  rw [Collected.sentiment, Collected.of_goldSentiments, Collected.of_predictedSentiments]
  split_ifs with hsome hnone hnone
  · simp [hnone] at hsome
  · rw [sentimentMetrics_eq repr (by simp) hsome]
    · simp [List.zip_map', Functor.map, Except.map]
    · intro label hlabel
      obtain ⟨pair, hpair, rfl⟩ := List.mem_map.mp hlabel
      exact (scoredSentiments_known hvalid hpair).1
    · intro label hlabel
      obtain ⟨pair, hpair, rfl⟩ := List.mem_map.mp hlabel
      exact (scoredSentiments_known hvalid hpair).2
  · rfl
  · simp [hnone] at hsome

theorem calibration_collected (repr : Python.Repr) :
    (Collected.of predictor items).calibration repr =
      .ok (if scoredPredictions predictor items = [] then none
        else some (.of 10 (scoredPredictions predictor items))) := by
  rw [Collected.calibration, Collected.of_confidences, Collected.of_correct]
  split_ifs with hsome hnone hnone
  · simp [hnone] at hsome
  · have hlength : ((scoredPredictions predictor items).map (·.1)).length
        = ((scoredPredictions predictor items).map (·.2)).length := by simp
    have hrange : ∀ confidence ∈ (scoredPredictions predictor items).map (·.1),
        0 ≤ confidence ∧ confidence ≤ 1 := by
      intro confidence hconfidence
      obtain ⟨prediction, hprediction, rfl⟩ := List.mem_map.mp hconfidence
      exact scoredPredictions_inRange hvalid hprediction
    have hvalue : calibrationMetrics repr ((scoredPredictions predictor items).map (·.1))
        ((scoredPredictions predictor items).map (·.2)) = .ok (.of 10 _) :=
      calibrationMetrics_eq repr hlength hsome (by decide) hrange
    rw [hvalue]
    simp [List.zip_map', Functor.map, Except.map]
  · rfl
  · simp [hnone] at hsome

end Valid

/-- **The value of `run_evaluation`** on valid predictions. -/
theorem runEvaluation_eq (repr : Python.Repr) {dataset : BenchmarkDataset} {predictor : Predictor}
    (hvalid : ∀ item ∈ dataset.items, ValidPrediction (predictor.predict item)) :
    runEvaluation repr dataset predictor = .ok (.of dataset predictor) := by
  simp only [runEvaluation, foldlM_collectItem repr hvalid, classification_collected,
    sentiment_collected hvalid, calibration_collected hvalid, bind, Except.bind]
  rfl

/-- A run that returns a result met valid predictions only. -/
theorem valid_of_runEvaluation {repr : Python.Repr} {dataset : BenchmarkDataset}
    {predictor : Predictor} {scores : EvaluationScores}
    (hrun : runEvaluation repr dataset predictor = .ok scores) :
    ∀ item ∈ dataset.items, ValidPrediction (predictor.predict item) := by
  rw [runEvaluation] at hrun
  rcases hloop : dataset.items.foldlM (collectItem repr predictor) {} with exc | collected
  · rw [hloop] at hrun
    cases hrun
  · exact valid_of_foldlM_collectItem hloop

end ReviewSignal
