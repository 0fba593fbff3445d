import ReviewSignal.Ai.Evaluation.Classification
import ReviewSignal.Foundations.Averages
import ReviewSignal.Foundations.Counting

/-!
# What the classification metrics say of label sets

The code counts label by label; the metrics are defined item by item, over the sizes of the label sets and
of what they share.  `microCounts_shared`, `microCounts_predicted` and `microCounts_gold` exchange the two
sums, for any universe that holds the labels.

**`classification_set_definition`** is the definition, with every missing denominator, and with what a perfect
score means:

* the micro scores are quotients of the sizes of the sets (`micro_counts`);
* the score of a category is the micro score of its label alone (`restricted_micro`), so the macro scores are
  averages of micro scores;
* either of the F1 scores is one exactly when every set is predicted as it is, and not all of them are empty.

The definition is this module's own and written without the code's counters; `SetDefinition` is it, as a
structure with a field for each score.
-/

namespace ReviewSignal

/-- The size of all label sets. -/
def labelTotal (sets : List (List String)) : ℕ := (sets.map (·.toFinset.card)).sum

/-- The size of what they share with the ones they are compared with. -/
def sharedTotal (gold predicted : List (List String)) : ℕ :=
  ((gold.zip predicted).map fun item => (item.1.toFinset ∩ item.2.toFinset).card).sum

/-- The label is in one of the sets. -/
def Occurs (sets : List (List String)) (label : String) : Prop := ∃ labels ∈ sets, label ∈ labels

/-- The sets of one label. -/
def restrict (label : String) (sets : List (List String)) : List (List String) :=
  sets.map (·.filter (· = label))

/-- Every set is predicted as it is, and not all of them are empty. -/
def Perfect (gold predicted : List (List String)) : Prop :=
  gold.map (·.toFinset) = predicted.map (·.toFinset) ∧ ∃ label, Occurs gold label ∨ Occurs predicted label

/-- The metrics, as they are defined. -/
structure SetDefinition (gold predicted : List (List String)) (metrics : ClassificationMetrics) : Prop where
  micro_precision : metrics.micro.precision = sharedTotal gold predicted / labelTotal predicted
  micro_recalled : metrics.micro.recalled = sharedTotal gold predicted / labelTotal gold
  micro_f1 : metrics.micro.f1 = 2 * sharedTotal gold predicted / (labelTotal gold + labelTotal predicted)
  micro_support : metrics.micro.support = labelTotal gold
  support_sum : (metrics.perCategory.map (·.2.support)).sum = labelTotal gold
  categories_distinct : (metrics.perCategory.map (·.1)).Nodup
  categories : ∀ label, label ∈ metrics.perCategory.map (·.1) ↔ Occurs gold label ∨ Occurs predicted label
  restricted : ∀ entry ∈ metrics.perCategory, ∃ alone,
    classificationMetrics (restrict entry.1 gold) (restrict entry.1 predicted) = .ok alone ∧
      alone.micro = entry.2
  micro_inRange : metrics.micro.InRange
  macro_inRange : metrics.macroScore.InRange
  categories_inRange : ∀ entry ∈ metrics.perCategory, entry.2.InRange
  micro_perfect : metrics.micro.f1 = 1 ↔ Perfect gold predicted
  macro_perfect : metrics.macroScore.f1 = 1 ↔ Perfect gold predicted

/-! ## The counts of one label

How many items have it on one side. -/

section Counts

variable {items : List (List String × List String)} {labels : List String} {label : String}

theorem labelCounts_predicted (items : List (List String × List String)) (label : String) :
    (labelCounts items label).truePositives + (labelCounts items label).falsePositives
      = items.countP (label ∈ ·.2) := by
  simpa [labelCounts] using countP_and_add items (label ∈ ·.1) (label ∈ ·.2)

theorem labelCounts_gold (items : List (List String × List String)) (label : String) :
    (labelCounts items label).truePositives + (labelCounts items label).falseNegatives
      = items.countP (label ∈ ·.1) := by
  simpa [labelCounts, Bool.and_comm] using countP_and_add items (label ∈ ·.2) (label ∈ ·.1)

/-! ## Exchanging the sums

Counting label by label what is counted item by item. -/

theorem microCounts_predicted (hlabels : labels.Nodup) (hitems : ∀ item ∈ items, item.2 ⊆ labels) :
    (microCounts items labels).truePositives + (microCounts items labels).falsePositives
      = (items.map (·.2.toFinset.card)).sum := by
  simp only [microCounts, ← List.sum_map_add, labelCounts_predicted]
  exact sum_countP_mem hlabels hitems

theorem microCounts_gold (hlabels : labels.Nodup) (hitems : ∀ item ∈ items, item.1 ⊆ labels) :
    (microCounts items labels).truePositives + (microCounts items labels).falseNegatives
      = (items.map (·.1.toFinset.card)).sum := by
  simp only [microCounts, ← List.sum_map_add, labelCounts_gold]
  exact sum_countP_mem hlabels hitems

theorem microCounts_shared (hlabels : labels.Nodup) (hitems : ∀ item ∈ items, item.2 ⊆ labels) :
    (microCounts items labels).truePositives
      = (items.map fun item => (item.1.toFinset ∩ item.2.toFinset).card).sum := by
  have hshared (item : List String × List String) :
      item.1.toFinset ∩ item.2.toFinset = (item.1 ∩ item.2).toFinset := by
    ext label
    simp
  have hcounts (label : String) :
      (labelCounts items label).truePositives = items.countP fun item => label ∈ item.1 ∩ item.2 := by
    simp [labelCounts]
  simp only [microCounts, hcounts, hshared]
  refine sum_countP_mem hlabels fun item hitem label hlabel => ?_
  exact hitems item hitem (List.mem_inter_iff.mp hlabel).2

end Counts

theorem map_eq_iff_zip {α β : Type} (f : α → β) : ∀ {l l' : List α}, l.length = l'.length →
    (l.map f = l'.map f ↔ ∀ pair ∈ l.zip l', f pair.1 = f pair.2)
  | [], [], _ => by simp
  | a :: l, b :: l', h => by
      have hrest := map_eq_iff_zip f (Nat.succ.inj h)
      simp [hrest]

theorem labelScore_inRange (items : List (List String × List String)) (label : String) :
    (labelScore items label).InRange :=
  Score.inRange_ofCounts _ _ _

/-- A label that no item has scores nothing. -/
theorem labelScore_of_not_gold {items : List (List String × List String)} {label : String}
    (hlabel : ∀ item ∈ items, label ∉ item.1) : labelScore items label = ⟨0, 0, 0, 0⟩ := by
  have hcounts : (labelCounts items label).truePositives = 0
      ∧ (labelCounts items label).falseNegatives = 0 := by
    simp only [labelCounts, List.countP_eq_zero]
    constructor <;>
      · intro item hitem
        simp [hlabel item hitem]
  rw [labelScore, hcounts.1, hcounts.2]
  simp [Score.ofCounts]

section Universe

variable {gold predicted : List (List String)} {label : String}

theorem mem_universe : label ∈ labelUniverse gold predicted ↔ Occurs gold label ∨ Occurs predicted label :=
  mem_labelUniverse

theorem gold_subset : ∀ item ∈ gold.zip predicted, item.1 ⊆ labelUniverse gold predicted :=
  fun item hitem _ hlabel => mem_universe.mpr (.inl ⟨item.1, (List.of_mem_zip hitem).1, hlabel⟩)

theorem predicted_subset : ∀ item ∈ gold.zip predicted, item.2 ⊆ labelUniverse gold predicted :=
  fun item hitem _ hlabel => mem_universe.mpr (.inr ⟨item.2, (List.of_mem_zip hitem).2, hlabel⟩)

variable (hlength : gold.length = predicted.length)

include hlength

/-- **The micro score**: its counts are those of the sets. -/
theorem micro_counts :
    let counts := microCounts (gold.zip predicted) (labelUniverse gold predicted)
    counts.truePositives = sharedTotal gold predicted ∧
      counts.truePositives + counts.falsePositives = labelTotal predicted ∧
      counts.truePositives + counts.falseNegatives = labelTotal gold := by
  intro counts
  have hnodup := labelUniverse_nodup gold predicted
  refine ⟨microCounts_shared hnodup predicted_subset, ?_, ?_⟩
  · rw [microCounts_predicted hnodup predicted_subset, labelTotal]
    conv_rhs => rw [← List.map_snd_zip hlength.ge, List.map_map]
    rfl
  · rw [microCounts_gold hnodup gold_subset, labelTotal]
    conv_rhs => rw [← List.map_fst_zip hlength.le, List.map_map]
    rfl

/-! ## One label alone

The same metrics of the sets cut down to one label. -/

omit hlength in
theorem labelUniverse_restrict (hlabel : label ∈ labelUniverse gold predicted) :
    labelUniverse (restrict label gold) (restrict label predicted) = [label] := by
  have hmem (other : String) :
      other ∈ labelUniverse (restrict label gold) (restrict label predicted) ↔ other ∈ [label] := by
    have hoccurs (sets : List (List String)) :
        Occurs (restrict label sets) other ↔ other = label ∧ Occurs sets label := by
      simp only [Occurs, restrict, List.mem_map]
      constructor
      · rintro ⟨_, ⟨set, hset, rfl⟩, hother⟩
        rw [List.mem_filter, decide_eq_true_eq] at hother
        exact ⟨hother.2, set, hset, hother.2 ▸ hother.1⟩
      · rintro ⟨rfl, set, hset, hmem⟩
        exact ⟨_, ⟨set, hset, rfl⟩, by simpa using hmem⟩
    rw [mem_universe] at hlabel ⊢
    rw [hoccurs, hoccurs, ← and_or_left, List.mem_singleton]
    exact and_iff_left hlabel
  exact List.perm_singleton.mp
    ((List.perm_ext_iff_of_nodup (labelUniverse_nodup _ _) (List.nodup_singleton _)).mpr hmem)

omit hlength in
theorem labelCounts_restrict : labelCounts ((restrict label gold).zip (restrict label predicted)) label
    = labelCounts (gold.zip predicted) label := by
  rw [restrict, restrict, List.zip_map]
  simp [labelCounts, List.countP_map, Function.comp_def]

/-- **A category's score is the micro score of its label alone.** -/
theorem restricted_micro (hne : gold ≠ []) (hlabel : label ∈ labelUniverse gold predicted) :
    ∃ alone, classificationMetrics (restrict label gold) (restrict label predicted) = .ok alone ∧
      alone.micro = labelScore (gold.zip predicted) label := by
  refine ⟨_, classificationMetrics_eq (by simpa [restrict] using hlength) (by simpa [restrict] using hne),
    ?_⟩
  rw [labelUniverse_restrict hlabel]
  simp [ClassificationMetrics.of, microCounts, labelCounts_restrict, labelScore]

/-! ## Perfect scores

No label is invented nor missed. -/

/-- Some item has the label on one of its sides. -/
theorem labelCounts_ne_zero (hlabel : label ∈ labelUniverse gold predicted)
    (hpredicted : (labelCounts (gold.zip predicted) label).falsePositives = 0)
    (hgold : (labelCounts (gold.zip predicted) label).falseNegatives = 0) :
    (labelCounts (gold.zip predicted) label).truePositives ≠ 0 := by
  intro htrue
  have hnone := labelCounts_predicted (gold.zip predicted) label
  have hnone' := labelCounts_gold (gold.zip predicted) label
  rw [htrue, hpredicted, eq_comm, List.countP_eq_zero] at hnone
  rw [htrue, hgold, eq_comm, List.countP_eq_zero] at hnone'
  rcases mem_universe.mp hlabel with ⟨set, hset, hmem⟩ | ⟨set, hset, hmem⟩
  · rw [← List.map_fst_zip hlength.le, List.mem_map] at hset
    obtain ⟨item, hitem, rfl⟩ := hset
    exact hnone' item hitem (by simpa using hmem)
  · rw [← List.map_snd_zip hlength.ge, List.mem_map] at hset
    obtain ⟨item, hitem, rfl⟩ := hset
    exact hnone item hitem (by simpa using hmem)

omit hlength in
/-- No label is invented nor missed where every set is predicted as it is. -/
theorem labels_exact_iff : (∀ label ∈ labelUniverse gold predicted,
      (labelCounts (gold.zip predicted) label).falsePositives = 0 ∧
        (labelCounts (gold.zip predicted) label).falseNegatives = 0)
    ↔ ∀ item ∈ gold.zip predicted, item.1.toFinset = item.2.toFinset := by
  simp only [labelCounts, List.countP_eq_zero, Bool.decide_and, Bool.and_eq_true, decide_eq_true_eq,
    not_and, not_not]
  constructor
  · intro hlabels item hitem
    ext label
    rw [List.mem_toFinset, List.mem_toFinset]
    constructor
    · intro hmem
      exact (hlabels label (gold_subset item hitem hmem)).2 item hitem hmem
    · intro hmem
      by_contra hmissing
      exact (hlabels label (predicted_subset item hitem hmem)).1 item hitem hmissing hmem
  · intro hitems label _
    refine ⟨fun item hitem hmissing hmem => hmissing ?_, fun item hitem hmem => ?_⟩
    · rwa [← List.mem_toFinset, hitems item hitem, List.mem_toFinset]
    · rwa [← List.mem_toFinset, ← hitems item hitem, List.mem_toFinset]

theorem perfect_iff : Perfect gold predicted ↔ labelUniverse gold predicted ≠ [] ∧
    ∀ label ∈ labelUniverse gold predicted,
      (labelCounts (gold.zip predicted) label).falsePositives = 0 ∧
        (labelCounts (gold.zip predicted) label).falseNegatives = 0 := by
  have hoccurs : labelUniverse gold predicted ≠ []
      ↔ ∃ label, Occurs gold label ∨ Occurs predicted label := by
    simp [← mem_universe, List.eq_nil_iff_forall_not_mem]
  rw [Perfect, labels_exact_iff, map_eq_iff_zip (·.toFinset) hlength, hoccurs, and_comm]

theorem micro_perfect_iff :
    (ClassificationMetrics.of (gold.zip predicted) (labelUniverse gold predicted)).micro.f1 = 1
      ↔ Perfect gold predicted := by
  rw [perfect_iff hlength]
  show (Score.ofCounts _ _ _).f1 = 1 ↔ _
  rw [Score.f1_eq_one_iff]
  simp only [microCounts, List.sum_eq_zero_iff, List.forall_mem_map, ne_eq]
  constructor
  · rintro ⟨htrue, hpredicted, hgold⟩
    refine ⟨?_, fun label hlabel => ⟨hpredicted label hlabel, hgold label hlabel⟩⟩
    intro hempty
    simp [hempty] at htrue
  · rintro ⟨hne, hexact⟩
    refine ⟨?_, fun label hlabel => (hexact label hlabel).1, fun label hlabel => (hexact label hlabel).2⟩
    intro hzero
    obtain ⟨label, hlabel⟩ := List.exists_mem_of_ne_nil _ hne
    exact labelCounts_ne_zero hlength hlabel (hexact label hlabel).1 (hexact label hlabel).2
      (hzero label hlabel)

theorem macro_perfect_iff :
    (ClassificationMetrics.of (gold.zip predicted) (labelUniverse gold predicted)).macroScore.f1 = 1
      ↔ Perfect gold predicted := by
  rw [perfect_iff hlength]
  show ((labelUniverse gold predicted).map fun label => (labelScore (gold.zip predicted) label).f1).sum
    / (labelUniverse gold predicted).length = 1 ↔ _
  rw [average_eq_one_iff fun label _ => (labelScore_inRange _ label).f1.2]
  refine and_congr_right fun _ => forall₂_congr fun label hlabel => ?_
  rw [labelScore, Score.f1_eq_one_iff]
  exact and_iff_right_of_imp fun hexact => labelCounts_ne_zero hlength hlabel hexact.1 hexact.2

end Universe

theorem setDefinition_of {gold predicted : List (List String)}
    (hlength : gold.length = predicted.length) (hne : gold ≠ []) :
    SetDefinition gold predicted (.of (gold.zip predicted) (labelUniverse gold predicted)) := by
  obtain ⟨hshared, hpredicted, hgold⟩ := micro_counts hlength
  set items := gold.zip predicted
  set labels := labelUniverse gold predicted
  set counts := microCounts items labels
  have hkeys : ((ClassificationMetrics.of items labels).perCategory.map (·.1)) = labels := by
    simp [ClassificationMetrics.of, Function.comp_def]
  have hentry : ∀ entry ∈ (ClassificationMetrics.of items labels).perCategory,
      entry.1 ∈ labels ∧ entry.2 = labelScore items entry.1 := by
    intro entry hentry
    obtain ⟨label, hlabel, rfl⟩ := List.mem_map.mp hentry
    exact ⟨hlabel, rfl⟩
  have hmicro : (ClassificationMetrics.of items labels).micro
      = .ofCounts counts.truePositives counts.falsePositives counts.falseNegatives := rfl
  refine
    { micro_precision := ?_, micro_recalled := ?_, micro_f1 := ?_, micro_support := hgold
      support_sum := ?_, categories_distinct := ?_, categories := ?_, restricted := ?_
      micro_inRange := Score.inRange_ofCounts _ _ _, macro_inRange := ?_, categories_inRange := ?_
      micro_perfect := micro_perfect_iff hlength, macro_perfect := macro_perfect_iff hlength }
  · rw [hmicro, ← hshared, ← hpredicted]
    rfl
  · rw [hmicro, ← hshared, ← hgold]
    rfl
  · rw [hmicro, Score.ofCounts_f1, hpredicted, hgold, hshared]
  · rw [← hgold]
    simp [ClassificationMetrics.of, Function.comp_def, labelScore, Score.ofCounts, counts, microCounts,
      List.sum_map_add]
  · rw [hkeys]
    exact labelUniverse_nodup _ _
  · rw [hkeys]
    exact fun label => mem_universe
  · intro entry hmem
    obtain ⟨hlabel, hscore⟩ := hentry entry hmem
    rw [hscore]
    exact restricted_micro hlength hne hlabel
  · exact ⟨⟨average_nonneg fun label _ => (labelScore_inRange items label).precision.1,
        average_le_one fun label _ => (labelScore_inRange items label).precision.2⟩,
      ⟨average_nonneg fun label _ => (labelScore_inRange items label).recalled.1,
        average_le_one fun label _ => (labelScore_inRange items label).recalled.2⟩,
      ⟨average_nonneg fun label _ => (labelScore_inRange items label).f1.1,
        average_le_one fun label _ => (labelScore_inRange items label).f1.2⟩⟩
  · intro entry hmem
    rw [(hentry entry hmem).2]
    exact labelScore_inRange _ _

/-- **The metrics equal their set definition**, for any label sets, as many on either side and at least one.
The definition divides by sizes of sets, and by zero where there are none. -/
theorem classification_set_definition {gold predicted : List (List String)}
    (hlength : gold.length = predicted.length) (hne : gold ≠ []) :
    ∃ metrics, classificationMetrics gold predicted = .ok metrics ∧
      SetDefinition gold predicted metrics :=
  ⟨_, classificationMetrics_eq hlength hne, setDefinition_of hlength hne⟩

/-- One item with a label found, one missed and one invented. -/
theorem classification_set_definition_one_item :
    ∃ metrics, classificationMetrics [["food", "staff"]] [["food", "parking"]] = .ok metrics ∧
      SetDefinition [["food", "staff"]] [["food", "parking"]] metrics :=
  classification_set_definition rfl nofun

end ReviewSignal
