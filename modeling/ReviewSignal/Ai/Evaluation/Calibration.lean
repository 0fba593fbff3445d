import ReviewSignal.Foundations.Builtins
import Mathlib.Algebra.Order.Ring.Rat
import Mathlib.Algebra.Order.Group.Abs
import Mathlib.Tactic.Positivity

/-!
# Confidence calibration

`metrics/calibration.py`.  A prediction is its confidence and whether it was right.  The index of a
bucket is an integer that Python would take for one from the end when it is negative, so it matters
that a confidence of at least zero never has such an index (`bucketIndex_range`).

* `foldlM_fileConfidence` — the first loop files every prediction in its bucket;
* `foldlM_reportBucket` — the second loop reports every bucket, an empty one as well;
* **`calibrationMetrics_eq`** — the value of `calibration_metrics` on confidences in range, as a function of
  the predictions of each bucket; it raises nothing.

Numbers are rationals.  Python's are floats, in which the edges of the buckets are not what they seem; that a
confidence on an edge is filed above it is the same in both.  What the buckets mean is the subject of
`CalibrationBounds`.
-/

namespace ReviewSignal

/-- `ReliabilityBucket` -/
structure ReliabilityBucket where
  lower : ℚ
  upper : ℚ
  count : ℕ
  meanConfidence : ℚ
  accuracy : ℚ
  deriving DecidableEq, Repr

/-- `CalibrationMetrics` -/
structure CalibrationMetrics where
  brierScore : ℚ
  expectedCalibrationError : ℚ
  buckets : List ReliabilityBucket
  predictionCount : ℕ
  deriving DecidableEq, Repr

/-- `bisect_right` of a sorted list: how many of its elements are not above the value. -/
def bisectRight (edges : List ℚ) (value : ℚ) : ℕ := (edges.takeWhile (· ≤ value)).length

/-- `float(was_correct)` -/
def Calibration.outcome (wasCorrect : Bool) : ℚ := if wasCorrect then 1 else 0

/-- The lists and the sum of the first loop. -/
structure BucketTotals where
  counts : List ℕ
  confidenceSums : List ℚ
  correctCounts : List ℕ
  squaredError : ℚ

/-- `min(bisect_right(edges, confidence) - 1, bucket_count - 1)` -/
def bucketIndex (edges : List ℚ) (bucketCount : ℤ) (confidence : ℚ) : ℤ :=
  min (bisectRight edges confidence - 1 : ℤ) (bucketCount - 1)

/-- One round of the first loop. -/
def fileConfidence (edges : List ℚ) (bucketCount : ℤ) (totals : BucketTotals)
    (prediction : ℚ × Bool) : Except Exn BucketTotals := do
  let squaredError := totals.squaredError + (prediction.1 - Calibration.outcome prediction.2) ^ 2
  let index := bucketIndex edges bucketCount prediction.1
  let counts ← Python.modifyItem totals.counts index (· + 1)
  let confidenceSums ← Python.modifyItem totals.confidenceSums index (· + prediction.1)
  let correctCounts ← Python.modifyItem totals.correctCounts index (· + prediction.2.toNat)
  pure { counts, confidenceSums, correctCounts, squaredError }

/-- The variables of the second loop. -/
structure BucketReport where
  buckets : List ReliabilityBucket := []
  expectedCalibrationError : ℚ := 0

/-- One round of the second loop. -/
def reportBucket (edges : List ℚ) (total : ℕ) (totals : BucketTotals) (report : BucketReport)
    (index : ℕ) : Except Exn BucketReport := do
  let count ← Python.listItem totals.counts index
  let confidenceSum ← Python.listItem totals.confidenceSums index
  let meanConfidence ← Python.ratio confidenceSum count
  let correctCount ← Python.listItem totals.correctCounts index
  let accuracy ← Python.ratio correctCount count
  let lower ← Python.listItem edges index
  let upper ← Python.listItem edges (index + 1)
  let weight ← Python.div count total
  pure { buckets := report.buckets ++ [{ lower, upper, count, meanConfidence, accuracy }]
         expectedCalibrationError :=
           report.expectedCalibrationError + weight * |accuracy - meanConfidence| }

/-- `calibration_metrics` -/
def calibrationMetrics (repr : Python.Repr) (confidences : List ℚ) (correct : List Bool)
    (bucketCount : ℤ := 10) : Except Exn CalibrationMetrics := do
  if confidences.length ≠ correct.length then
    .error ⟨"ValueError", "confidences and correct must have the same length"⟩
  else if confidences = [] then .error ⟨"ValueError", "cannot evaluate an empty benchmark"⟩
  else if bucketCount < 1 then .error ⟨"ValueError", "bucket_count must be at least 1"⟩
  else match confidences.find? (fun confidence => ¬ (0 ≤ confidence ∧ confidence ≤ 1)) with
  | some confidence => .error ⟨"ValueError", "confidence out of range: " ++ repr.float confidence⟩
  | none =>
      let indices := List.range bucketCount.toNat
      let edges ← (List.range (bucketCount.toNat + 1)).mapM fun index : ℕ =>
        Python.div index bucketCount
      let predictions ← Python.zipStrict confidences correct
      let totals ← predictions.foldlM (fileConfidence edges bucketCount)
        { counts := indices.map fun _ => 0, confidenceSums := indices.map fun _ => 0
          correctCounts := indices.map fun _ => 0, squaredError := 0 }
      let total := confidences.length
      let report ← indices.foldlM (reportBucket edges total totals) {}
      let brierScore ← Python.div totals.squaredError total
      pure { brierScore, expectedCalibrationError := report.expectedCalibrationError
             buckets := report.buckets, predictionCount := total }

/-! ## Its value

The lists of the loops are tables over the range of the buckets, and a round changes one entry. -/

/-- The edges of some buckets of equal width. -/
def bucketEdges (bucketCount : ℕ) : List ℚ :=
  (List.range (bucketCount + 1)).map fun index : ℕ => (index : ℚ) / bucketCount

/-- The predictions of one bucket. -/
def inBucket (bucketCount : ℕ) (predictions : List (ℚ × Bool)) (index : ℕ) : List (ℚ × Bool) :=
  predictions.filter fun prediction =>
    bucketIndex (bucketEdges bucketCount) bucketCount prediction.1 = index

/-- What the first loop has after some predictions. -/
def BucketTotals.of (bucketCount : ℕ) (predictions : List (ℚ × Bool)) : BucketTotals where
  counts := (List.range bucketCount).map fun index => (inBucket bucketCount predictions index).length
  confidenceSums := (List.range bucketCount).map fun index =>
    ((inBucket bucketCount predictions index).map (·.1)).sum
  correctCounts := (List.range bucketCount).map fun index =>
    (inBucket bucketCount predictions index).countP (·.2)
  squaredError := (predictions.map fun prediction =>
    (prediction.1 - Calibration.outcome prediction.2) ^ 2).sum

/-- One bucket of some predictions. -/
def ReliabilityBucket.of (bucketCount : ℕ) (predictions : List (ℚ × Bool)) (index : ℕ) :
    ReliabilityBucket :=
  let bucket := inBucket bucketCount predictions index
  { lower := index / bucketCount
    upper := (index + 1 : ℕ) / bucketCount
    count := bucket.length
    meanConfidence := (bucket.map (·.1)).sum / bucket.length
    accuracy := bucket.countP (·.2) / bucket.length }

/-- What a bucket adds to the expected calibration error. -/
def ReliabilityBucket.gap (total : ℕ) (bucket : ReliabilityBucket) : ℚ :=
  bucket.count / total * |bucket.accuracy - bucket.meanConfidence|

/-- The metrics of some predictions. -/
def CalibrationMetrics.of (bucketCount : ℕ) (predictions : List (ℚ × Bool)) : CalibrationMetrics :=
  let buckets := (List.range bucketCount).map (.of bucketCount predictions)
  { brierScore := (predictions.map fun prediction =>
        (prediction.1 - Calibration.outcome prediction.2) ^ 2).sum / predictions.length
    expectedCalibrationError := (buckets.map (·.gap predictions.length)).sum
    buckets, predictionCount := predictions.length }

/-- **A bucket's index is one of its list**, for any confidence that is not negative. -/
theorem bucketIndex_range {bucketCount : ℕ} (hpositive : 0 < bucketCount) {confidence : ℚ}
    (h : 0 ≤ confidence) : ∃ index : ℕ, index < bucketCount ∧
      bucketIndex (bucketEdges bucketCount) bucketCount confidence = index := by
  have hfirst : 0 < bisectRight (bucketEdges bucketCount) confidence := by
    rw [bisectRight, bucketEdges, List.range_succ_eq_map]
    simp [h]
  refine ⟨min (bisectRight (bucketEdges bucketCount) confidence - 1) (bucketCount - 1), ?_, ?_⟩
  · omega
  · rw [bucketIndex]
    omega

theorem inBucket_append (bucketCount : ℕ) (predictions : List (ℚ × Bool)) (prediction : ℚ × Bool)
    (index : ℕ) : inBucket bucketCount (predictions ++ [prediction]) index
      = inBucket bucketCount predictions index ++
        if bucketIndex (bucketEdges bucketCount) bucketCount prediction.1 = index then [prediction]
        else [] := by
  by_cases h : bucketIndex (bucketEdges bucketCount) bucketCount prediction.1 = index
  · simp [inBucket, h]
  · simp [inBucket, h]

/-- A round of a table over a range. -/
theorem modifyItem_range {α : Type} {bound index : ℕ} (table : ℕ → α) (f : α → α)
    (h : index < bound) : Python.modifyItem ((List.range bound).map table) index f
      = .ok ((List.range bound).map fun i => if index = i then f (table i) else table i) := by
  rw [Python.modifyItem_eq f (by simpa using h)]
  congr 1
  refine List.ext_getElem (by simp) fun i hi hi' => ?_
  simp [List.getElem_modify]

theorem listItem_range {α : Type} {bound index : ℕ} (table : ℕ → α) (h : index < bound) :
    Python.listItem ((List.range bound).map table) index = .ok (table index) := by
  rw [Python.listItem_eq (by simpa using h)]
  simp

/-- The step of the first loop. -/
theorem fileConfidence_of {bucketCount : ℕ} (hpositive : 0 < bucketCount)
    (predictions : List (ℚ × Bool)) {prediction : ℚ × Bool} (h : 0 ≤ prediction.1) :
    fileConfidence (bucketEdges bucketCount) bucketCount (.of bucketCount predictions) prediction
      = .ok (.of bucketCount (predictions ++ [prediction])) := by
  obtain ⟨index, hindex, heq⟩ := bucketIndex_range hpositive h
  simp only [fileConfidence, heq, BucketTotals.of, modifyItem_range _ _ hindex, bind, Except.bind,
    pure, Except.pure]
  congr 2
  · refine List.map_congr_left fun i _ => ?_
    rw [inBucket_append, heq]
    by_cases hi : index = i <;> simp [hi]
  · refine List.map_congr_left fun i _ => ?_
    rw [inBucket_append, heq]
    by_cases hi : index = i <;> simp [hi]
  · refine List.map_congr_left fun i _ => ?_
    rw [inBucket_append, heq]
    rcases prediction with ⟨confidence, _ | _⟩ <;> by_cases hi : index = i <;> simp [hi]
  · simp

/-- **The first loop** files every prediction in its bucket. -/
theorem foldlM_fileConfidence {bucketCount : ℕ} (hpositive : 0 < bucketCount)
    {predictions : List (ℚ × Bool)} (h : ∀ prediction ∈ predictions, 0 ≤ prediction.1) :
    predictions.foldlM (fileConfidence (bucketEdges bucketCount) bucketCount) (.of bucketCount [])
      = .ok (.of bucketCount predictions) := by
  induction predictions using List.reverseRecOn with
  | nil => rfl
  | append_singleton predictions prediction ih =>
      rw [List.foldlM_append, ih fun p hp => h p (List.mem_append_left _ hp)]
      simp only [bind, Except.bind, List.foldlM_cons, List.foldlM_nil,
        fileConfidence_of hpositive predictions (h prediction (by simp))]
      rfl

/-- The step of the second loop. -/
theorem reportBucket_of {bucketCount : ℕ} {predictions : List (ℚ × Bool)} (hne : predictions ≠ [])
    (report : BucketReport) {index : ℕ} (h : index < bucketCount) :
    reportBucket (bucketEdges bucketCount) predictions.length (.of bucketCount predictions) report
        index = .ok
      { buckets := report.buckets ++ [.of bucketCount predictions index]
        expectedCalibrationError := report.expectedCalibrationError
          + (ReliabilityBucket.of bucketCount predictions index).gap predictions.length } := by
  have hedge (i : ℕ) (hi : i ≤ bucketCount) :
      Python.listItem (bucketEdges bucketCount) i = .ok ((i : ℚ) / bucketCount) :=
    listItem_range (fun i : ℕ => (i : ℚ) / bucketCount) (by omega)
  have hupper := hedge (index + 1) h
  rw [Nat.cast_add_one] at hupper
  have htotal : (predictions.length : ℚ) ≠ 0 := by simpa using hne
  simp only [reportBucket, BucketTotals.of, listItem_range _ h, hedge index h.le, hupper, Python.ratio_eq,
    Python.div_eq htotal, bind, Except.bind, pure, Except.pure]
  rfl

/-- **The second loop** reports every bucket. -/
theorem foldlM_reportBucket {bucketCount : ℕ} {predictions : List (ℚ × Bool)}
    (hne : predictions ≠ []) (report : BucketReport) {indices : List ℕ}
    (h : ∀ index ∈ indices, index < bucketCount) :
    indices.foldlM (reportBucket (bucketEdges bucketCount) predictions.length
        (.of bucketCount predictions)) report = .ok
      { buckets := report.buckets ++ indices.map (.of bucketCount predictions)
        expectedCalibrationError := report.expectedCalibrationError + (indices.map fun index =>
          (ReliabilityBucket.of bucketCount predictions index).gap predictions.length).sum } := by
  induction indices generalizing report with
  | nil => simp [pure, Except.pure]
  | cons index indices ih =>
      rw [List.foldlM_cons, reportBucket_of hne report (h index List.mem_cons_self)]
      simp only [bind, Except.bind]
      rw [ih _ fun i hi => h i (List.mem_cons_of_mem _ hi)]
      simp [add_assoc]

/-- **The value of `calibration_metrics`** on confidences in range. -/
theorem calibrationMetrics_eq (repr : Python.Repr) {confidences : List ℚ} {correct : List Bool}
    {bucketCount : ℕ} (hlength : confidences.length = correct.length) (hne : confidences ≠ [])
    (hpositive : 0 < bucketCount)
    (hrange : ∀ confidence ∈ confidences, 0 ≤ confidence ∧ confidence ≤ 1) :
    calibrationMetrics repr confidences correct bucketCount
      = .ok (.of bucketCount (confidences.zip correct)) := by
  have hfind : confidences.find? (fun confidence => ¬ (0 ≤ confidence ∧ confidence ≤ 1)) = none := by
    rw [List.find?_eq_none]
    intro confidence hconfidence
    simpa using hrange confidence hconfidence
  have hedges : (List.range (bucketCount + 1)).mapM (fun index : ℕ =>
      Python.div index ((bucketCount : ℤ) : ℚ)) = .ok (bucketEdges bucketCount) := by
    refine mapM_ok (fun index _ => ?_)
    rw [Int.cast_natCast]
    exact Python.div_eq (by exact_mod_cast hpositive.ne')
  set predictions := confidences.zip correct with hpredictions
  have hcount : confidences.length = predictions.length := by simp [hpredictions, ← hlength]
  have hpresent : predictions ≠ [] := by
    rw [← List.length_pos_iff, ← hcount]
    exact List.length_pos_iff.mpr hne
  have htotal : (predictions.length : ℚ) ≠ 0 := by simpa using hpresent
  have hfiled : ∀ prediction ∈ predictions, 0 ≤ prediction.1 := fun prediction h =>
    (hrange _ (List.of_mem_zip h).1).1
  have hreport := foldlM_reportBucket hpresent {} fun index (h : index ∈ List.range bucketCount) =>
    List.mem_range.mp h
  have hstart : ({ counts := (List.range bucketCount).map fun _ => 0
                   confidenceSums := (List.range bucketCount).map fun _ => 0
                   correctCounts := (List.range bucketCount).map fun _ => 0
                   squaredError := 0 } : BucketTotals) = .of bucketCount [] := rfl
  rw [calibrationMetrics, if_neg (not_not.mpr hlength), if_neg hne, if_neg (by omega), hfind]
  simp only [Int.toNat_natCast, hedges, Python.zipStrict_eq hlength, ← hpredictions, hstart,
    foldlM_fileConfidence hpositive hfiled, hcount, hreport, Python.div_eq htotal, bind, Except.bind,
    pure, Except.pure]
  simp [CalibrationMetrics.of, BucketTotals.of, Function.comp_def]

end ReviewSignal
