import ReviewSignal.Ai.Evaluation.Dataset
import ReviewSignal.Ai.Evaluation.Scores

/-!
# Aspect-level sentiment metrics

`metrics/sentiment.py`.  The confusion matrix is fixed to `SENTIMENTS`, so on known sentiments no
subscript of it fails, and each cell ends as the number of its pairs (`foldlM_increment`).

**`sentimentMetrics_eq`** is the value of `sentiment_metrics` on known sentiments, as many on either side: a
function of the pairs.  The rows and columns are summed for each sentiment, and the macro score averages over
those that occur among the gold ones: a sentiment that is only predicted lowers the scores of the others and
is not averaged over itself.

The matrix is an association list under the order of `SENTIMENTS`, as the code's nested dictionaries are.
-/

namespace ReviewSignal

/-- `confusion[gold][predicted] -> count` -/
abbrev Confusion := List (String × List (String × ℕ))

/-- `SentimentMetrics` -/
structure SentimentMetrics where
  accuracy : ℚ
  macroF1 : ℚ
  perSentiment : List (String × Score)
  confusion : Confusion
  pairCount : ℕ
  deriving DecidableEq, Repr

namespace Confusion

/-- The matrix of a number for every two sentiments. -/
def table (counts : String → String → ℕ) : Confusion :=
  sentiments.map fun actual => (actual, sentiments.map fun predicted => (predicted, counts actual predicted))

/-- `confusion[gold][predicted]` -/
def cell (confusion : Confusion) (gold predicted : String) : Except Exn ℕ := do
  let row ← Python.item confusion gold
  Python.item row predicted

/-- `confusion[gold_label][predicted_label] += 1` -/
def increment (confusion : Confusion) (pair : String × String) : Except Exn Confusion := do
  let row ← Python.item confusion pair.1
  let count ← Python.item row pair.2
  pure (Python.setItem confusion pair.1 (Python.setItem row pair.2 (count + 1)))

/-- One round of the loop over `SENTIMENTS`. -/
def score (confusion : Confusion) (label : String) : Except Exn (String × Score) := do
  let truePositives ← confusion.cell label label
  let row ← Python.item confusion label
  -- the cell that is taken off is one of the summands
  let falseNegatives := (row.map (·.2)).sum - truePositives
  let column ← sentiments.mapM fun actual => confusion.cell actual label
  let falsePositives := column.sum - truePositives
  let score ← prfScore truePositives falsePositives falseNegatives
  pure (label, score)

end Confusion

/-- `sentiment_metrics` -/
def sentimentMetrics (repr : Python.Repr) (gold predicted : List String) :
    Except Exn SentimentMetrics := do
  if gold.length ≠ predicted.length then
    .error ⟨"ValueError", "gold and predicted must have the same length"⟩
  else if gold = [] then .error ⟨"ValueError", "cannot evaluate an empty benchmark"⟩
  else match (gold ++ predicted).find? (· ∉ sentiments) with
  | some label => .error ⟨"ValueError", "unknown sentiment: " ++ repr.str label⟩
  | none =>
      let pairs ← Python.zipStrict gold predicted
      let confusion ← pairs.foldlM Confusion.increment (.table fun _ _ => 0)
      let perSentiment ← sentiments.mapM confusion.score
      let diagonal ← sentiments.mapM fun label => confusion.cell label label
      let correct := diagonal.sum
      let observed := ((perSentiment.map (·.2)).filter (·.support ≠ 0)).map (·.f1)
      let accuracy ← Python.div correct gold.length
      let macroF1 ← mean observed
      pure { accuracy, macroF1, perSentiment, confusion, pairCount := gold.length }

/-! ## Their value

A matrix that is a table of its pairs stays one when a cell is incremented. -/

/-- The score of one sentiment, over some pairs. -/
def sentimentScore (pairs : List (String × String)) (label : String) : Score :=
  let truePositives := pairs.count (label, label)
  .ofCounts truePositives
    ((sentiments.map fun actual => pairs.count (actual, label)).sum - truePositives)
    ((sentiments.map fun predicted => pairs.count (label, predicted)).sum - truePositives)

/-- The pairs whose two sides are the same sentiment. -/
def agreements (pairs : List (String × String)) : ℕ :=
  (sentiments.map fun label => pairs.count (label, label)).sum

/-- The metrics of some pairs. -/
def SentimentMetrics.of (pairs : List (String × String)) : SentimentMetrics :=
  let observed := ((sentiments.map (sentimentScore pairs)).filter (·.support ≠ 0)).map (·.f1)
  { accuracy := agreements pairs / pairs.length
    macroF1 := observed.sum / observed.length
    perSentiment := sentiments.map fun label => (label, sentimentScore pairs label)
    confusion := .table fun actual predicted => pairs.count (actual, predicted)
    pairCount := pairs.length }

namespace Confusion

variable {counts : String → String → ℕ} {gold predicted label : String}

theorem item_table (hgold : gold ∈ sentiments) : Python.item (table counts) gold
    = .ok (sentiments.map fun predicted => (predicted, counts gold predicted)) :=
  Python.item_table hgold

theorem cell_table (hgold : gold ∈ sentiments) (hpredicted : predicted ∈ sentiments) :
    (table counts).cell gold predicted = .ok (counts gold predicted) := by
  rw [cell, item_table hgold]
  exact Python.item_table hpredicted

theorem increment_table (hgold : gold ∈ sentiments) (hpredicted : predicted ∈ sentiments) :
    (table counts).increment (gold, predicted) =
      .ok (table fun a p => counts a p + if (gold, predicted) = (a, p) then 1 else 0) := by
  have hrow : Python.item (sentiments.map fun p => (p, counts gold p)) predicted
      = .ok (counts gold predicted) := Python.item_table hpredicted
  simp only [increment, item_table hgold, bind, Except.bind, hrow, pure, Except.pure]
  rw [Python.setItem_table _ _ hpredicted, table, Python.setItem_table _ _ hgold, table]
  congr 1
  refine List.map_congr_left fun a _ => ?_
  by_cases ha : a = gold
  · subst ha
    simp only [Function.update_self, Prod.mk.injEq, true_and]
    refine List.map_congr_left fun p _ => ?_
    by_cases hp : p = predicted
    · simp [hp]
    · simp [hp, Ne.symm hp]
  · simp [ha, Ne.symm ha]

/-- **Every cell counts its pairs.** -/
theorem foldlM_increment {pairs : List (String × String)}
    (hknown : ∀ pair ∈ pairs, pair.1 ∈ sentiments ∧ pair.2 ∈ sentiments) :
    pairs.foldlM increment (table counts) =
      .ok (table fun a p => counts a p + pairs.count (a, p)) := by
  induction pairs generalizing counts with
  | nil => rfl
  | cons pair pairs ih =>
      have hpair := hknown pair List.mem_cons_self
      rw [List.foldlM_cons, increment_table hpair.1 hpair.2]
      show pairs.foldlM increment (table _) = _
      rw [ih fun pair h => hknown pair (List.mem_cons_of_mem _ h)]
      simp [List.count_cons, Nat.add_assoc, Nat.add_comm (if _ then _ else _)]

theorem score_table (hlabel : label ∈ sentiments) :
    (table counts).score label = .ok (label, .ofCounts (counts label label)
      ((sentiments.map fun actual => counts actual label).sum - counts label label)
      ((sentiments.map fun predicted => counts label predicted).sum - counts label label)) := by
  have hcolumn : (sentiments.mapM fun actual => (table counts).cell actual label)
      = .ok (sentiments.map fun actual => counts actual label) :=
    mapM_ok fun actual hactual => cell_table hactual hlabel
  simp only [score, cell_table hlabel hlabel, item_table hlabel, hcolumn, prfScore_eq, bind,
    Except.bind, pure, Except.pure, List.map_map, Function.comp_def]

end Confusion

/-- **The value of `sentiment_metrics`** on known sentiments, as many on either side. -/
theorem sentimentMetrics_eq (repr : Python.Repr) {gold predicted : List String}
    (hlength : gold.length = predicted.length) (hne : gold ≠ [])
    (hgold : ∀ label ∈ gold, label ∈ sentiments)
    (hpredicted : ∀ label ∈ predicted, label ∈ sentiments) :
    sentimentMetrics repr gold predicted = .ok (.of (gold.zip predicted)) := by
  have hfind : (gold ++ predicted).find? (· ∉ sentiments) = none := by
    rw [List.find?_eq_none]
    intro label hlabel
    have hknown : label ∈ sentiments := (List.mem_append.mp hlabel).elim (hgold label)
      (hpredicted label)
    simpa using hknown
  set pairs := gold.zip predicted with hpairs
  have hcount : gold.length = pairs.length := by simp [hpairs, ← hlength]
  have hknown : ∀ pair ∈ pairs, pair.1 ∈ sentiments ∧ pair.2 ∈ sentiments := fun pair h =>
    ⟨hgold _ (List.of_mem_zip h).1, hpredicted _ (List.of_mem_zip h).2⟩
  have hscores : sentiments.mapM (Confusion.table fun a p => pairs.count (a, p)).score
      = .ok (sentiments.map fun label => (label, sentimentScore pairs label)) :=
    mapM_ok fun label hlabel => Confusion.score_table hlabel
  have hdiagonal : (sentiments.mapM fun label =>
      (Confusion.table fun a p => pairs.count (a, p)).cell label label)
        = .ok (sentiments.map fun label => pairs.count (label, label)) :=
    mapM_ok fun label hlabel => Confusion.cell_table hlabel hlabel
  have hpositive : (gold.length : ℚ) ≠ 0 := by simpa using hne
  rw [sentimentMetrics, if_neg (not_not.mpr hlength), if_neg hne, hfind]
  simp only [Python.zipStrict_eq hlength, ← hpairs, Confusion.foldlM_increment hknown, bind, Except.bind,
    Nat.zero_add, hscores, hdiagonal, Python.div_eq hpositive, mean_eq, pure, Except.pure]
  simp [SentimentMetrics.of, agreements, hcount, Function.comp_def]

end ReviewSignal
