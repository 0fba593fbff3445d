import ReviewSignal.Ai.Evaluation.Scores
import Mathlib.Data.List.Sort
import Mathlib.Data.List.Dedup
import Mathlib.Data.String.Basic

/-!
# Multi-label classification metrics

`metrics/classification.py`: one pass over the items for each label.  A set is the list of its
elements, without repetition, and `sorted` of it does not depend on their order.

On label sets that go together none of its branches raises, and the result is a function of how many
items have a label on either side (**`classificationMetrics_eq`**).  Every result about these metrics starts
from that equation: `SetDefinition` turns the counts into sizes of sets, `OrderIndependence` permutes what is
counted, `InventedLabels` adds one to a count, and `SentimentAgreement` compares the counts with a matrix.

The labels are those of the gold sets and the predicted ones together; a label that nobody has is not
scored.
-/

namespace ReviewSignal

/-- `ClassificationMetrics`.  `macroScore` is the source's `macro`, which Lean reserves. -/
structure ClassificationMetrics where
  micro : Score
  macroScore : Score
  perCategory : List (String × Score)
  itemCount : ℕ
  labelCount : ℕ
  deriving DecidableEq, Repr

/-- The counters of one label. -/
structure LabelCounts where
  truePositives : ℕ := 0
  falsePositives : ℕ := 0
  falseNegatives : ℕ := 0
  deriving DecidableEq, Repr

/-- One round of the inner loop. -/
def countItem (label : String) (counts : LabelCounts) (item : List String × List String) :
    LabelCounts :=
  let inGold := label ∈ item.1
  let inPredicted := label ∈ item.2
  if inGold ∧ inPredicted then { counts with truePositives := counts.truePositives + 1 }
  else if inPredicted then { counts with falsePositives := counts.falsePositives + 1 }
  else if inGold then { counts with falseNegatives := counts.falseNegatives + 1 }
  else counts

/-- `sorted` of a set. -/
def sortedSet (labels : List String) : List String := labels.dedup.insertionSort (· ≤ ·)

/-- The label universe. -/
def labelUniverse (gold predicted : List (List String)) : List String :=
  sortedSet (gold.flatten ++ predicted.flatten)

/-- The variables of the outer loop. -/
structure LabelTotals where
  perCategory : List (String × Score) := []
  micro : LabelCounts := {}

/-- One round of the outer loop. -/
def scoreLabel (gold predicted : List (List String)) (totals : LabelTotals) (label : String) :
    Except Exn LabelTotals := do
  let items ← Python.zipStrict gold predicted
  let counts := items.foldl (countItem label) {}
  let score ← prfScore counts.truePositives counts.falsePositives counts.falseNegatives
  pure { perCategory := totals.perCategory ++ [(label, score)]
         micro := ⟨totals.micro.truePositives + counts.truePositives,
           totals.micro.falsePositives + counts.falsePositives,
           totals.micro.falseNegatives + counts.falseNegatives⟩ }

/-- `classification_metrics` -/
def classificationMetrics (gold predicted : List (List String)) :
    Except Exn ClassificationMetrics := do
  if gold.length ≠ predicted.length then
    .error ⟨"ValueError", "gold and predicted must have the same length"⟩
  else if gold = [] then .error ⟨"ValueError", "cannot evaluate an empty benchmark"⟩
  else
    let labels := labelUniverse gold predicted
    let totals ← labels.foldlM (scoreLabel gold predicted) {}
    let micro ← prfScore totals.micro.truePositives totals.micro.falsePositives
      totals.micro.falseNegatives
    let scores := totals.perCategory.map (·.2)
    let precision ← mean (scores.map (·.precision))
    let recalled ← mean (scores.map (·.recalled))
    let f1 ← mean (scores.map (·.f1))
    pure { micro, macroScore := { precision, recalled, f1, support := micro.support }
           perCategory := totals.perCategory, itemCount := gold.length
           labelCount := labels.length }

/-! ## The label universe

Which labels are scored, each once. -/

@[simp] theorem mem_sortedSet {label : String} {labels : List String} :
    label ∈ sortedSet labels ↔ label ∈ labels := by
  simp [sortedSet]

theorem labelUniverse_nodup (gold predicted : List (List String)) :
    (labelUniverse gold predicted).Nodup :=
  (List.perm_insertionSort _ _).nodup_iff.mpr (List.nodup_dedup _)

theorem mem_labelUniverse {gold predicted : List (List String)} {label : String} :
    label ∈ labelUniverse gold predicted
      ↔ (∃ labels ∈ gold, label ∈ labels) ∨ ∃ labels ∈ predicted, label ∈ labels := by
  simp [labelUniverse]

/-! ## Their value

The inner loop counts, and the outer one adds the counts up. -/

/-- How many items have a label on both sides, on the right one only, or on the left one only. -/
def labelCounts (items : List (List String × List String)) (label : String) : LabelCounts where
  truePositives := items.countP fun item => label ∈ item.1 ∧ label ∈ item.2
  falsePositives := items.countP fun item => label ∉ item.1 ∧ label ∈ item.2
  falseNegatives := items.countP fun item => label ∈ item.1 ∧ label ∉ item.2

/-- The score of one label. -/
def labelScore (items : List (List String × List String)) (label : String) : Score :=
  let counts := labelCounts items label
  .ofCounts counts.truePositives counts.falsePositives counts.falseNegatives

/-- The sums over some labels. -/
def microCounts (items : List (List String × List String)) (labels : List String) : LabelCounts where
  truePositives := (labels.map fun label => (labelCounts items label).truePositives).sum
  falsePositives := (labels.map fun label => (labelCounts items label).falsePositives).sum
  falseNegatives := (labels.map fun label => (labelCounts items label).falseNegatives).sum

/-- The metrics of some items, over some labels. -/
def ClassificationMetrics.of (items : List (List String × List String)) (labels : List String) :
    ClassificationMetrics :=
  let counts := microCounts items labels
  let micro := Score.ofCounts counts.truePositives counts.falsePositives counts.falseNegatives
  let average (f : Score → ℚ) : ℚ := (labels.map fun label => f (labelScore items label)).sum
    / labels.length
  { micro
    macroScore := ⟨average (·.precision), average (·.recalled), average (·.f1), micro.support⟩
    perCategory := labels.map fun label => (label, labelScore items label)
    itemCount := items.length
    labelCount := labels.length }

theorem foldl_countItem (label : String) (items : List (List String × List String))
    (counts : LabelCounts) :
    items.foldl (countItem label) counts =
      { truePositives := counts.truePositives + (labelCounts items label).truePositives
        falsePositives := counts.falsePositives + (labelCounts items label).falsePositives
        falseNegatives := counts.falseNegatives + (labelCounts items label).falseNegatives } := by
  induction items generalizing counts with
  | nil => rfl
  | cons item items ih =>
      rw [List.foldl_cons, ih]
      by_cases hgold : label ∈ item.1 <;> by_cases hpredicted : label ∈ item.2 <;>
        simp [countItem, labelCounts, hgold, hpredicted, Nat.add_comm 1, Nat.add_assoc]

/-- The loop over the labels. -/
theorem foldl_labels (items : List (List String × List String)) (labels : List String)
    (totals : LabelTotals) :
    labels.foldl (fun totals label =>
      { perCategory := totals.perCategory ++ [(label, labelScore items label)]
        micro := ⟨totals.micro.truePositives + (labelCounts items label).truePositives,
          totals.micro.falsePositives + (labelCounts items label).falsePositives,
          totals.micro.falseNegatives + (labelCounts items label).falseNegatives⟩ }) totals =
      { perCategory := totals.perCategory ++ labels.map fun label => (label, labelScore items label)
        micro := ⟨totals.micro.truePositives + (microCounts items labels).truePositives,
          totals.micro.falsePositives + (microCounts items labels).falsePositives,
          totals.micro.falseNegatives + (microCounts items labels).falseNegatives⟩ } := by
  induction labels generalizing totals with
  | nil => simp [microCounts]
  | cons label labels ih =>
      rw [List.foldl_cons, ih]
      simp [microCounts, Nat.add_assoc]

/-- **The value of `classification_metrics`** on as many predictions as there are items. -/
theorem classificationMetrics_eq {gold predicted : List (List String)}
    (hlength : gold.length = predicted.length) (hne : gold ≠ []) :
    classificationMetrics gold predicted
      = .ok (.of (gold.zip predicted) (labelUniverse gold predicted)) := by
  have hround (totals : LabelTotals) (label : String) :
      scoreLabel gold predicted totals label = .ok
        { perCategory := totals.perCategory ++ [(label, labelScore (gold.zip predicted) label)]
          micro := ⟨totals.micro.truePositives
              + (labelCounts (gold.zip predicted) label).truePositives,
            totals.micro.falsePositives + (labelCounts (gold.zip predicted) label).falsePositives,
            totals.micro.falseNegatives
              + (labelCounts (gold.zip predicted) label).falseNegatives⟩ } := by
    simp only [scoreLabel, Python.zipStrict_eq hlength, prfScore_eq, foldl_countItem, Nat.zero_add]
    rfl
  set items := gold.zip predicted with hitems
  set labels := labelUniverse gold predicted with hlabels
  have hloop : labels.foldlM (scoreLabel gold predicted) {} = .ok
      { perCategory := labels.map fun label => (label, labelScore items label)
        micro := microCounts items labels } := by
    rw [foldlM_ok fun totals label _ => hround totals label, foldl_labels]
    simp
  have hcount : gold.length = items.length := by simp [hitems, ← hlength]
  rw [classificationMetrics, if_neg (not_not.mpr hlength), if_neg hne]
  dsimp only
  rw [hloop]
  dsimp only [bind, Except.bind]
  simp only [prfScore_eq, mean_eq]
  simp [ClassificationMetrics.of, List.map_map, Function.comp_def, hcount, hlabels, pure,
    Except.pure]

end ReviewSignal
