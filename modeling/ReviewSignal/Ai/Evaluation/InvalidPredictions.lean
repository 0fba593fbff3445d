import ReviewSignal.Ai.Evaluation.Runner

/-!
# A run fails on invalid predictions only

The metric functions and the lookups of the loop have error branches of their own.  The validators of
the dataset, `_validated` and the two `None` guards keep every one of them from being reached.

**`raises_iff_invalid`**: `run_evaluation` raises exactly when `_validated` must refuse the prediction of some
item (`InvalidPrediction`), and then with the error of `_validated`; and on what a loop collected that came
to its end, no metric function raises.  The second part is stated for the metric functions one by one, since a
run that does not raise could also have been saved by the guards.
-/

namespace ReviewSignal

/-- What `_validated` must refuse. -/
def InvalidPrediction (aspects : List PredictedAspect) : Prop :=
  ¬ (aspects.map (·.categoryId)).Nodup ∨
    ∃ aspect ∈ aspects, aspect.sentiment ∉ sentiments ∨ aspect.confidence < 0 ∨ 1 < aspect.confidence

theorem invalidPrediction_iff {aspects : List PredictedAspect} :
    InvalidPrediction aspects ↔ ¬ ValidPrediction aspects := by
  rw [InvalidPrediction]
  constructor
  · rintro (hnodup | ⟨aspect, haspect, hsentiment | hlow | hhigh⟩) hvalid
    · exact hnodup hvalid.distinct
    · exact hsentiment (hvalid.known aspect haspect)
    · exact absurd (hvalid.inRange aspect haspect).1 (not_le.mpr hlow)
    · exact absurd (hvalid.inRange aspect haspect).2 (not_le.mpr hhigh)
  · intro hinvalid
    by_contra h
    push Not at h
    exact hinvalid ⟨h.1, fun a ha => (h.2 a ha).1, fun a ha => (h.2 a ha).2⟩

/-- The metric functions return on what a loop collected which came to its end. -/
structure MetricsReturn (repr : Python.Repr) (dataset : BenchmarkDataset) (collected : Collected) :
    Prop where
  classification : ∃ metrics,
    classificationMetrics dataset.goldCategories collected.predictedCategories = .ok metrics
  sentiment : ∃ metrics, collected.sentiment repr = .ok metrics
  calibration : ∃ metrics, collected.calibration repr = .ok metrics
  index_range : ∀ confidence ∈ collected.confidences,
    0 ≤ bucketIndex (bucketEdges 10) 10 confidence ∧ bucketIndex (bucketEdges 10) 10 confidence < 10

theorem metricsReturn_of (repr : Python.Repr) {dataset : BenchmarkDataset} {predictor : Predictor}
    (hvalid : ∀ item ∈ dataset.items, ValidPrediction (predictor.predict item)) :
    MetricsReturn repr dataset (.of predictor dataset.items) where
  classification := ⟨_, classification_collected dataset predictor⟩
  sentiment := ⟨_, sentiment_collected hvalid repr⟩
  calibration := ⟨_, calibration_collected hvalid repr⟩
  index_range := by
    intro confidence hconfidence
    rw [Collected.of_confidences] at hconfidence
    obtain ⟨prediction, hprediction, rfl⟩ := List.mem_map.mp hconfidence
    have hrange := scoredPredictions_inRange hvalid hprediction
    obtain ⟨index, hindex, heq⟩ := bucketIndex_range (by decide : 0 < 10) hrange.1
    rw [Nat.cast_ofNat] at heq
    omega

/-- **`run_evaluation` raises exactly on an invalid prediction**, with the error of `_validated`, and
on what its loop collects no metric function raises. -/
theorem raises_iff_invalid (repr : Python.Repr) (dataset : BenchmarkDataset)
    (predictor : Predictor) :
    ((∃ exc, runEvaluation repr dataset predictor = .error exc) ↔
      ∃ item ∈ dataset.items, InvalidPrediction (predictor.predict item)) ∧
    (∀ exc, runEvaluation repr dataset predictor = .error exc →
      ∃ item ∈ dataset.items, InvalidPrediction (predictor.predict item) ∧
        validated repr (predictor.predict item) item.reviewId = .error exc) ∧
    ∀ collected, dataset.items.foldlM (collectItem repr predictor) {} = .ok collected →
      MetricsReturn repr dataset collected := by
  have hraised : ∀ exc, runEvaluation repr dataset predictor = .error exc →
      ∃ item ∈ dataset.items, InvalidPrediction (predictor.predict item) ∧
        validated repr (predictor.predict item) item.reviewId = .error exc := by
    intro exc hrun
    rcases hloop : dataset.items.foldlM (collectItem repr predictor) {} with raised | collected
    · rw [runEvaluation, hloop] at hrun
      cases hrun
      obtain ⟨item, hitem, hinvalid, hvalidated⟩ := foldlM_collectItem_error [] hloop
      exact ⟨item, hitem, invalidPrediction_iff.mpr hinvalid, hvalidated⟩
    · rw [runEvaluation_eq repr (valid_of_foldlM_collectItem hloop)] at hrun
      cases hrun
  refine ⟨⟨?_, ?_⟩, hraised, ?_⟩
  · rintro ⟨exc, hrun⟩
    obtain ⟨item, hitem, hinvalid, -⟩ := hraised exc hrun
    exact ⟨item, hitem, hinvalid⟩
  · rintro ⟨item, hitem, hinvalid⟩
    rcases hrun : runEvaluation repr dataset predictor with exc | scores
    · exact ⟨exc, rfl⟩
    · exact absurd (valid_of_runEvaluation hrun item hitem) (invalidPrediction_iff.mp hinvalid)
  · intro collected hloop
    have hvalid := valid_of_foldlM_collectItem hloop
    rw [foldlM_collectItem repr hvalid] at hloop
    cases hloop
    exact metricsReturn_of repr hvalid

end ReviewSignal
