import ReviewSignal.Ai.Evaluation.Calibration
import ReviewSignal.Foundations.Averages
import ReviewSignal.Foundations.Counting
import Mathlib.Data.Rat.Floor

/-!
# Calibration buckets partition the predictions

Where the bisection puts a confidence is a matter of its integer part (`bisectRight_eq`), so that the bounds
a bucket reports are those of what it counts (`bucketIndex_eq_iff`): closed below and open above, but for the
last bucket, which is closed above.

The error of a bucket is the sum of its predictions' errors (`gap_eq`).  The errors of all buckets add up to
the error of all predictions (`sum_inBucket`), and the inequalities of the scores follow from three facts
about rationals: the absolute value of a sum, that of one error, and the square of an average.

**`calibration_coherent`** puts these together for any number of buckets and any confidences in range.  The
buckets partition the predictions by the bounds they report, and their counts, confidences and right answers
add up; the calibration error is at least the absolute value of the mean error, its square is at most the
Brier score, and neither is above one.
-/

namespace ReviewSignal

/-- The confidence is between the bounds that the bucket reports. -/
def ReliabilityBucket.Holds (bucket : ReliabilityBucket) (last : Prop) (confidence : ℚ) : Prop :=
  bucket.lower ≤ confidence ∧ (confidence < bucket.upper ∨ last ∧ confidence = bucket.upper)

instance (bucket : ReliabilityBucket) (last : Prop) [Decidable last] (confidence : ℚ) :
    Decidable (bucket.Holds last confidence) :=
  inferInstanceAs (Decidable (_ ∧ _))

/-- The metrics of some predictions, in terms of the predictions. -/
structure CalibrationCoherent (predictions : List (ℚ × Bool)) (bucketCount : ℤ)
    (metrics : CalibrationMetrics) : Prop where
  bucket_count : (metrics.buckets.length : ℤ) = bucketCount
  prediction_count : metrics.predictionCount = predictions.length
  held_once : ∀ prediction ∈ predictions, ∃! index : ℕ, ∃ bucket ∈ metrics.buckets[index]?,
    bucket.Holds (index + 1 = metrics.buckets.length) prediction.1
  counted : ∀ index : ℕ, ∀ bucket ∈ metrics.buckets[index]?,
    bucket.count = predictions.countP fun prediction =>
      bucket.Holds (index + 1 = metrics.buckets.length) prediction.1
  counts_sum : (metrics.buckets.map (·.count)).sum = metrics.predictionCount
  confidences_sum : (metrics.buckets.map fun bucket => (bucket.count : ℚ) * bucket.meanConfidence).sum
    = (predictions.map (·.1)).sum
  correct_sum : (metrics.buckets.map fun bucket => (bucket.count : ℚ) * bucket.accuracy).sum
    = predictions.countP (·.2)
  error_ge : |(predictions.countP (·.2) : ℚ) / predictions.length
    - (predictions.map (·.1)).sum / predictions.length| ≤ metrics.expectedCalibrationError
  error_le_one : metrics.expectedCalibrationError ≤ 1
  error_sq_le : metrics.expectedCalibrationError ^ 2 ≤ metrics.brierScore
  brier_le_one : metrics.brierScore ≤ 1

/-! ## The bisection

The edges are multiples of one width, and how many of them are not above a value is the integer part of a
quotient. -/

theorem takeWhile_range_length {p : ℕ → Bool} {bound stop : ℕ} (hstop : stop ≤ bound)
    (hbefore : ∀ index < stop, p index) (hat : stop < bound → p stop = false) :
    ((List.range bound).takeWhile p).length = stop := by
  obtain ⟨rest, rfl⟩ := Nat.exists_eq_add_of_le hstop
  have hall := fun index hindex => hbefore index (List.mem_range.mp hindex)
  rw [List.range_add, List.takeWhile_append_of_pos hall]
  cases rest with
  | zero => simp
  | succ rest => simp [List.range_succ_eq_map, hat (by omega)]

section Bisection

variable {bucketCount : ℕ} {confidence : ℚ}

theorem bisectRight_eq (hpositive : 0 < bucketCount) (hnonneg : 0 ≤ confidence) (hle : confidence ≤ 1) :
    bisectRight (bucketEdges bucketCount) confidence = ⌊confidence * bucketCount⌋₊ + 1 := by
  have hwidth : (0 : ℚ) < bucketCount := by exact_mod_cast hpositive
  have hbelow (index : ℕ) :
      (index : ℚ) / bucketCount ≤ confidence ↔ index ≤ ⌊confidence * bucketCount⌋₊ := by
    rw [div_le_iff₀ hwidth, Nat.le_floor_iff (by positivity)]
  have hlast : ⌊confidence * bucketCount⌋₊ ≤ bucketCount :=
    Nat.floor_le_of_le (mul_le_of_le_one_left hwidth.le hle)
  rw [bisectRight, bucketEdges, List.takeWhile_map, List.length_map]
  refine takeWhile_range_length (by omega) (fun index hindex => ?_) fun _ => ?_
  · rw [Function.comp_apply, decide_eq_true_eq, hbelow]
    omega
  · rw [Function.comp_apply, decide_eq_false_iff_not, hbelow]
    omega

/-- **The bucket of a confidence is the one whose bounds contain it**, the last one closed above. -/
theorem bucketIndex_eq_iff {index : ℕ} (hindex : index < bucketCount) (hnonneg : 0 ≤ confidence)
    (hle : confidence ≤ 1) (predictions : List (ℚ × Bool)) :
    bucketIndex (bucketEdges bucketCount) bucketCount confidence = index
      ↔ (ReliabilityBucket.of bucketCount predictions index).Holds (index + 1 = bucketCount) confidence := by
  have hwidth : (0 : ℚ) < bucketCount := by exact_mod_cast (Nat.zero_le index).trans_lt hindex
  have hproduct : 0 ≤ confidence * bucketCount := by positivity
  have hlast : index + 1 = bucketCount → (confidence < (index + 1 : ℕ) / bucketCount
      ∨ confidence = (index + 1 : ℕ) / bucketCount) := by
    rintro rfl
    rw [div_self hwidth.ne']
    exact lt_or_eq_of_le hle
  rw [bucketIndex, bisectRight_eq (by omega) hnonneg hle]
  simp only [ReliabilityBucket.Holds, ReliabilityBucket.of, div_le_iff₀ hwidth, lt_div_iff₀ hwidth]
  rw [← Nat.le_floor_iff hproduct, ← Nat.floor_lt hproduct]
  by_cases hend : index + 1 = bucketCount
  · have hupper : ⌊confidence * bucketCount⌋₊ < index + 1 ∨ index + 1 = bucketCount
        ∧ confidence = (index + 1 : ℕ) / bucketCount := by
      rw [Nat.floor_lt hproduct, ← lt_div_iff₀ hwidth]
      exact (hlast hend).imp_right fun heq => ⟨hend, heq⟩
    rw [and_iff_left hupper]
    omega
  · simp only [hend, false_and, or_false]
    omega

end Bisection

/-! ## The sums over the buckets

Every prediction is in one bucket. -/

section Sums

variable {bucketCount : ℕ} {predictions : List (ℚ × Bool)}

/-- **Summing by bucket is summing.** -/
theorem sum_inBucket {M : Type} [AddCommMonoid M] (hpositive : 0 < bucketCount)
    (hnonneg : ∀ prediction ∈ predictions, 0 ≤ prediction.1) (f : ℚ × Bool → M) :
    ((List.range bucketCount).map fun index => ((inBucket bucketCount predictions index).map f).sum).sum
      = (predictions.map f).sum := by
  have hgroup (index : ℕ) : inBucket bucketCount predictions index = predictions.filter fun prediction =>
      (bucketIndex (bucketEdges bucketCount) bucketCount prediction.1).toNat = index := by
    refine List.filter_congr fun prediction hprediction => ?_
    obtain ⟨own, -, heq⟩ := bucketIndex_range hpositive (hnonneg prediction hprediction)
    simp [heq]
  simp only [hgroup]
  refine sum_groups List.nodup_range _ f fun prediction hprediction => ?_
  obtain ⟨own, hown, heq⟩ := bucketIndex_range hpositive (hnonneg prediction hprediction)
  simpa [heq] using hown

/-- How far a prediction is from its outcome. -/
def predictionError (prediction : ℚ × Bool) : ℚ := Calibration.outcome prediction.2 - prediction.1

theorem sum_outcome (predictions : List (ℚ × Bool)) :
    (predictions.map fun prediction => Calibration.outcome prediction.2).sum = predictions.countP (·.2) := by
  rw [countP_eq_sum, Nat.cast_list_sum, List.map_map]
  refine congrArg List.sum (List.map_congr_left fun prediction _ => ?_)
  rcases prediction with ⟨confidence, _ | _⟩ <;> simp [Calibration.outcome]

theorem sum_predictionError (predictions : List (ℚ × Bool)) : (predictions.map predictionError).sum
    = (predictions.countP (·.2) : ℚ) - (predictions.map (·.1)).sum := by
  rw [← sum_outcome, eq_sub_iff_add_eq, ← List.sum_map_add]
  simp [predictionError]

theorem count_mul_average (bucket : List (ℚ × Bool)) (total : ℚ) (hempty : bucket = [] → total = 0) :
    (bucket.length : ℚ) * (total / bucket.length) = total := by
  by_cases h : bucket = []
  · simp [h, hempty h]
  · exact mul_div_cancel₀ _ (by simpa using h)

theorem count_mul_meanConfidence (index : ℕ) :
    ((ReliabilityBucket.of bucketCount predictions index).count : ℚ)
      * (ReliabilityBucket.of bucketCount predictions index).meanConfidence
        = ((inBucket bucketCount predictions index).map (·.1)).sum :=
  count_mul_average _ _ fun hempty => by simp [hempty]

theorem count_mul_accuracy (index : ℕ) :
    ((ReliabilityBucket.of bucketCount predictions index).count : ℚ)
      * (ReliabilityBucket.of bucketCount predictions index).accuracy
        = (inBucket bucketCount predictions index).countP (·.2) :=
  count_mul_average _ _ fun hempty => by simp [hempty]

/-- **The gap of a bucket is the error of its predictions.** -/
theorem gap_eq (index : ℕ) : (ReliabilityBucket.of bucketCount predictions index).gap predictions.length
    = |((inBucket bucketCount predictions index).map predictionError).sum| / predictions.length := by
  have habs : ((ReliabilityBucket.of bucketCount predictions index).count : ℚ)
      = |((ReliabilityBucket.of bucketCount predictions index).count : ℚ)| :=
    (abs_of_nonneg (by positivity)).symm
  rw [ReliabilityBucket.gap, div_mul_eq_mul_div, sum_predictionError, ← count_mul_accuracy,
    ← count_mul_meanConfidence, ← mul_sub, abs_mul, ← habs]

/-- **Every prediction is in one bucket**, so the buckets' right ones are the right ones. -/
theorem sum_bucket_accuracy (hpositive : 0 < bucketCount)
    (hnonneg : ∀ prediction ∈ predictions, 0 ≤ prediction.1) :
    ((CalibrationMetrics.of bucketCount predictions).buckets.map fun bucket =>
      (bucket.count : ℚ) * bucket.accuracy).sum = predictions.countP (·.2) := by
  rw [← sum_outcome, ← sum_inBucket hpositive hnonneg]
  simp [CalibrationMetrics.of, Function.comp_def, count_mul_accuracy, sum_outcome]

/-- **The calibration error** is between the absolute value of the mean error and the mean of its absolute
value. -/
theorem calibration_error_between (hpositive : 0 < bucketCount)
    (hnonneg : ∀ prediction ∈ predictions, 0 ≤ prediction.1) :
    |(predictions.map predictionError).sum / predictions.length|
        ≤ (CalibrationMetrics.of bucketCount predictions).expectedCalibrationError ∧
      (CalibrationMetrics.of bucketCount predictions).expectedCalibrationError
        ≤ (predictions.map fun prediction => |predictionError prediction|).sum / predictions.length := by
  have herror : (CalibrationMetrics.of bucketCount predictions).expectedCalibrationError
      = ((List.range bucketCount).map fun index =>
          |((inBucket bucketCount predictions index).map predictionError).sum|).sum / predictions.length := by
    simp [CalibrationMetrics.of, Function.comp_def, gap_eq, div_eq_mul_inv, List.sum_map_mul_right]
  rw [herror, abs_div, abs_of_nonneg (by positivity : (0 : ℚ) ≤ predictions.length)]
  constructor
  · refine div_le_div_of_nonneg_right ?_ (by positivity)
    rw [← sum_inBucket hpositive hnonneg]
    exact abs_sum_le _ _
  · refine div_le_div_of_nonneg_right ?_ (by positivity)
    rw [← sum_inBucket hpositive hnonneg fun prediction => |predictionError prediction|]
    exact List.sum_le_sum fun index _ => abs_sum_le _ _

end Sums

theorem abs_predictionError_le {prediction : ℚ × Bool} (h : 0 ≤ prediction.1 ∧ prediction.1 ≤ 1) :
    |predictionError prediction| ≤ 1 := by
  rcases prediction with ⟨confidence, _ | _⟩ <;>
    · rw [predictionError, Calibration.outcome, abs_le]
      constructor <;> · simp at h ⊢; linarith

section Bounds

variable {bucketCount : ℕ} {predictions : List (ℚ × Bool)} (hpositive : 0 < bucketCount)
  (hrange : ∀ prediction ∈ predictions, 0 ≤ prediction.1 ∧ prediction.1 ≤ 1)

include hrange in
/-- **A bucket counts what is between its bounds.** -/
theorem inBucket_eq {index : ℕ} (hindex : index < bucketCount) : inBucket bucketCount predictions index
    = predictions.filter fun prediction =>
        (ReliabilityBucket.of bucketCount predictions index).Holds (index + 1 = bucketCount)
          prediction.1 := by
  refine List.filter_congr fun prediction hprediction => ?_
  obtain ⟨hnonneg, hle⟩ := hrange prediction hprediction
  rw [decide_eq_decide]
  exact bucketIndex_eq_iff hindex hnonneg hle predictions

theorem bucket_at {index : ℕ} {bucket : ReliabilityBucket} :
    bucket ∈ (CalibrationMetrics.of bucketCount predictions).buckets[index]?
      ↔ index < bucketCount ∧ bucket = .of bucketCount predictions index := by
  simp only [CalibrationMetrics.of, List.getElem?_map, Option.mem_def, Option.map_eq_some_iff,
    List.getElem?_eq_some_iff, List.length_range, List.getElem_range]
  grind

include hpositive hrange

theorem coherent_of : CalibrationCoherent predictions bucketCount (.of bucketCount predictions) := by
  have hnonneg : ∀ prediction ∈ predictions, 0 ≤ prediction.1 := fun prediction h => (hrange prediction h).1
  have hbuckets : (CalibrationMetrics.of bucketCount predictions).buckets.length = bucketCount := by
    simp [CalibrationMetrics.of]
  obtain ⟨hlower, hupper⟩ := calibration_error_between hpositive hnonneg
  have hbrier : (CalibrationMetrics.of bucketCount predictions).brierScore
      = (predictions.map fun prediction => |predictionError prediction| ^ 2).sum / predictions.length := by
    simp [CalibrationMetrics.of, predictionError, sub_sq_comm]
  have herror : ∀ prediction ∈ predictions, |predictionError prediction| ≤ 1 := fun prediction h =>
    abs_predictionError_le (hrange prediction h)
  refine
    { bucket_count := by rw [hbuckets], prediction_count := rfl, held_once := ?_, counted := ?_
      counts_sum := ?_, confidences_sum := ?_, correct_sum := sum_bucket_accuracy hpositive hnonneg
      error_ge := ?_, error_le_one := hupper.trans (average_le_one herror), error_sq_le := ?_
      brier_le_one := ?_ }
  · intro prediction hprediction
    obtain ⟨hzero, hone⟩ := hrange prediction hprediction
    obtain ⟨index, hindex, heq⟩ := bucketIndex_range hpositive hzero
    simp only [bucket_at, hbuckets]
    refine ⟨index, ⟨_, ⟨hindex, rfl⟩, (bucketIndex_eq_iff hindex hzero hone predictions).mp heq⟩, ?_⟩
    rintro other ⟨_, ⟨hother, rfl⟩, hholds⟩
    have heq' := (bucketIndex_eq_iff hother hzero hone predictions).mpr hholds
    omega
  · intro index bucket hbucket
    obtain ⟨hindex, rfl⟩ := bucket_at.mp hbucket
    rw [hbuckets, List.countP_eq_length_filter, ← inBucket_eq hrange hindex]
    rfl
  · have hsum := sum_inBucket hpositive hnonneg fun _ => 1
    simpa [CalibrationMetrics.of, ReliabilityBucket.of, Function.comp_def] using hsum
  · rw [← sum_inBucket hpositive hnonneg]
    simp [CalibrationMetrics.of, Function.comp_def, count_mul_meanConfidence]
  · rwa [← sub_div, ← sum_predictionError]
  · rw [hbrier]
    refine le_trans ?_ (sq_average_le predictions fun prediction => |predictionError prediction|)
    exact pow_le_pow_left₀ ((abs_nonneg _).trans hlower) hupper 2
  · rw [hbrier]
    exact average_le_one fun prediction h => pow_le_one₀ (abs_nonneg _) (herror prediction h)

end Bounds

/-- **The buckets partition the predictions, and the scores are coherent**, for any number of buckets and any
predictions with confidences from zero to one. -/
theorem calibration_coherent (repr : Python.Repr) {predictions : List (ℚ × Bool)} (hne : predictions ≠ [])
    (hrange : ∀ prediction ∈ predictions, 0 ≤ prediction.1 ∧ prediction.1 ≤ 1) {bucketCount : ℤ}
    (hcount : 1 ≤ bucketCount) :
    ∃ metrics, calibrationMetrics repr (predictions.map (·.1)) (predictions.map (·.2)) bucketCount
        = .ok metrics ∧ CalibrationCoherent predictions bucketCount metrics := by
  lift bucketCount to ℕ using by omega
  have hpositive : 0 < bucketCount := by omega
  have hlength : (predictions.map (·.1)).length = (predictions.map (·.2)).length := by simp
  have hvalue := calibrationMetrics_eq repr hlength (by simpa using hne) hpositive
    (List.forall_mem_map.mpr hrange)
  have hzip : (predictions.map (·.1)).zip (predictions.map (·.2)) = predictions :=
    (List.zip_of_prod rfl rfl).symm
  rw [hzip] at hvalue
  exact ⟨_, hvalue, coherent_of hpositive hrange⟩

/-- A confidence on the edge of two buckets, and one at the end of the last. -/
theorem calibration_coherent_edges :
    ∃ metrics, calibrationMetrics ⟨fun text => "'" ++ text ++ "'", fun _ => "0.0"⟩ [1 / 2, 1] [true, false] 2
        = .ok metrics ∧ CalibrationCoherent [(1 / 2, true), (1, false)] 2 metrics := by
  have hrange : ∀ prediction ∈ [((1 / 2 : ℚ), true), (1, false)], 0 ≤ prediction.1 ∧ prediction.1 ≤ 1 := by
    intro prediction hprediction
    rw [List.mem_cons, List.mem_singleton] at hprediction
    rcases hprediction with rfl | rfl <;> norm_num
  exact calibration_coherent _ (List.cons_ne_nil _ _) hrange (by norm_num)

end ReviewSignal
