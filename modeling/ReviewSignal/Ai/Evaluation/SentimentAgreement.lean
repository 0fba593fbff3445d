import ReviewSignal.Ai.Evaluation.Sentiment
import ReviewSignal.Ai.Evaluation.SetDefinition

/-!
# The two scorers agree

A sentiment is a label set of one label.  `sentiment_metrics` counts the cells of a matrix fixed to
`SENTIMENTS`, `classification_metrics` scans the items for each label it has seen; on the singleton sets the
row and column sums of the matrix are the counters of the labels (`sentimentScore_eq`), also for the
sentiments that nobody has.

**`sentiment_classification_agree`** compares the two results: the accuracy is the micro F1, each sentiment
has the score of its label, and the two macro scores are averages of the same sum (`sum_observed`) over
different numbers of labels.  The matrix scorer averages over the distinct gold labels and the other one over
all it has seen, so the first of them is never below the second.

The two are written independently of each other in the source, and neither calls the other.
-/

namespace ReviewSignal

/-- The label sets of one label each. -/
def singletons (labels : List String) : List (List String) := labels.map ([·])

/-- The sentiment metrics and the classification metrics of the same labels. -/
structure SentimentAgreement (gold predicted : List String) (sentiment : SentimentMetrics)
    (classification : ClassificationMetrics) : Prop where
  micro_precision : sentiment.accuracy = classification.micro.precision
  micro_recalled : sentiment.accuracy = classification.micro.recalled
  micro_f1 : sentiment.accuracy = classification.micro.f1
  sentiments_scored : sentiment.perSentiment.map (·.1) = sentiments
  occurring : ∀ label, label ∈ gold ∨ label ∈ predicted → ∃ score,
    Python.item sentiment.perSentiment label = .ok score ∧
      Python.item classification.perCategory label = .ok score
  others : ∀ label ∈ sentiments, label ∉ gold → label ∉ predicted →
    Python.item sentiment.perSentiment label = .ok ⟨0, 0, 0, 0⟩
  macro_f1 : sentiment.macroF1 * gold.dedup.length
    = classification.macroScore.f1 * classification.labelCount
  macro_f1_le : classification.macroScore.f1 ≤ sentiment.macroF1
  rows : ∀ label ∈ sentiments, ∃ row score, Python.item sentiment.confusion label = .ok row ∧
    Python.item sentiment.perSentiment label = .ok score ∧
      (row.map (·.2)).sum = score.support ∧ score.support = gold.count label
  rows_sum : (sentiment.confusion.map fun row => (row.2.map (·.2)).sum).sum = sentiment.pairCount

theorem sentiments_nodup : sentiments.Nodup := by decide

/-! ## The matrix

Its diagonal, its rows and its columns, as counts of pairs. -/

section Matrix

variable {pairs : List (String × String)}

/-- The diagonal of the matrix counts the pairs whose sides agree. -/
theorem agreements_eq (hgold : ∀ pair ∈ pairs, pair.1 ∈ sentiments) :
    agreements pairs = pairs.countP fun pair => pair.1 = pair.2 := by
  rw [agreements, ← sum_countP_label sentiments_nodup pairs _ (·.1) hgold]
  refine congrArg List.sum (List.map_congr_left fun label _ => ?_)
  rw [List.count]
  refine List.countP_congr fun pair _ => ?_
  simp only [beq_iff_eq, Prod.ext_iff, Bool.and_eq_true, decide_eq_true_eq]
  constructor
  · rintro ⟨hactual, hpredicted⟩
    exact ⟨hactual.trans hpredicted.symm, hactual⟩
  · rintro ⟨hagree, hactual⟩
    exact ⟨hactual, hagree.symm.trans hactual⟩

theorem row_sum (hpredicted : ∀ pair ∈ pairs, pair.2 ∈ sentiments) (label : String) :
    (sentiments.map fun predicted => pairs.count (label, predicted)).sum
      = pairs.countP (·.1 = label) := by
  rw [← sum_countP_label sentiments_nodup pairs _ (·.2) hpredicted]
  refine congrArg List.sum (List.map_congr_left fun predicted _ => List.countP_congr fun pair _ => ?_)
  simp [Prod.ext_iff]

theorem column_sum (hgold : ∀ pair ∈ pairs, pair.1 ∈ sentiments) (label : String) :
    (sentiments.map fun actual => pairs.count (actual, label)).sum
      = pairs.countP (·.2 = label) := by
  rw [← sum_countP_label sentiments_nodup pairs _ (·.1) hgold]
  refine congrArg List.sum (List.map_congr_left fun actual _ => List.countP_congr fun pair _ => ?_)
  simp [Prod.ext_iff, and_comm]

/-! ## One sentiment

The counters of a label, over items of one label each. -/

/-- The items of the pairs. -/
def singletonItems (pairs : List (String × String)) : List (List String × List String) :=
  pairs.map fun pair => ([pair.1], [pair.2])

theorem labelCounts_singletons (label : String) :
    (labelCounts (singletonItems pairs) label).truePositives = pairs.count (label, label) := by
  rw [labelCounts, singletonItems, List.countP_map, List.count]
  refine List.countP_congr fun pair _ => ?_
  simp [Prod.ext_iff, @eq_comm _ label]

/-- **The sums of a row and a column are the counters of the label.** -/
theorem sentimentScore_eq (hgold : ∀ pair ∈ pairs, pair.1 ∈ sentiments)
    (hpredicted : ∀ pair ∈ pairs, pair.2 ∈ sentiments) (label : String) :
    sentimentScore pairs label = labelScore (singletonItems pairs) label := by
  have hcolumn : pairs.countP (·.2 = label) = (labelCounts (singletonItems pairs) label).truePositives
      + (labelCounts (singletonItems pairs) label).falsePositives := by
    rw [labelCounts_predicted, singletonItems, List.countP_map]
    exact List.countP_congr fun pair _ => by simp [@eq_comm _ label]
  have hrow : pairs.countP (·.1 = label) = (labelCounts (singletonItems pairs) label).truePositives
      + (labelCounts (singletonItems pairs) label).falseNegatives := by
    rw [labelCounts_gold, singletonItems, List.countP_map]
    exact List.countP_congr fun pair _ => by simp [@eq_comm _ label]
  rw [sentimentScore, row_sum hpredicted, column_sum hgold, hcolumn, hrow, ← labelCounts_singletons,
    Nat.add_sub_cancel_left, Nat.add_sub_cancel_left]
  rfl

end Matrix

/-! ## The two results

The universe of the labels is part of `SENTIMENTS`, and the rest of it scores nothing. -/

section Results

variable {gold predicted : List String}

theorem occurs_singletons {labels : List String} {label : String} :
    Occurs (singletons labels) label ↔ label ∈ labels := by
  simp [Occurs, singletons]

theorem singletons_zip (gold predicted : List String) :
    (singletons gold).zip (singletons predicted) = singletonItems (gold.zip predicted) := by
  rw [singletons, singletons, List.zip_map]
  rfl

theorem labelTotal_singletons (labels : List String) : labelTotal (singletons labels) = labels.length := by
  simp [labelTotal, singletons, Function.comp_def]

theorem sharedTotal_singletons (gold predicted : List String) :
    sharedTotal (singletons gold) (singletons predicted)
      = (gold.zip predicted).countP fun pair => pair.1 = pair.2 := by
  rw [sharedTotal, singletons_zip, singletonItems, List.map_map, countP_eq_sum]
  refine congrArg List.sum (List.map_congr_left fun pair _ => ?_)
  by_cases hagree : pair.1 = pair.2
  · simp [hagree]
  · simp [hagree, Finset.singleton_inter_of_notMem]

/-- A label that is not a gold one scores nothing. -/
theorem labelScore_of_not_mem {label : String} (hlabel : label ∉ gold) :
    labelScore (singletonItems (gold.zip predicted)) label = ⟨0, 0, 0, 0⟩ := by
  refine labelScore_of_not_gold fun item hitem hmem => hlabel ?_
  obtain ⟨pair, hpair, rfl⟩ := List.mem_map.mp hitem
  rw [List.mem_singleton.mp hmem]
  exact (List.of_mem_zip hpair).1

/-- **Both macro scores are averages of one sum.** -/
theorem sum_observed : ((sentiments.filter (· ∈ gold)).map fun label =>
      (labelScore (singletonItems (gold.zip predicted)) label).f1).sum
    = (sentiments.map fun label => (labelScore (singletonItems (gold.zip predicted)) label).f1).sum := by
  refine sum_part sentiments_nodup (sentiments_nodup.filter _)
    (List.filter_subset_self _) fun label hlabel hnot => ?_
  have hmissing : label ∉ gold := fun hmem => hnot (by simpa [hlabel] using hmem)
  rw [labelScore_of_not_mem hmissing]

variable (hgold : ∀ label ∈ gold, label ∈ sentiments) (hpredicted : ∀ label ∈ predicted, label ∈ sentiments)

include hgold in
/-- The sentiments that are averaged over are the distinct gold labels. -/
theorem length_observed : (sentiments.filter (· ∈ gold)).length = gold.dedup.length := by
  refine List.Perm.length_eq ((List.perm_ext_iff_of_nodup (sentiments_nodup.filter _)
    (List.nodup_dedup _)).mpr fun label => ?_)
  simpa using hgold label

include hgold in
theorem pairs_gold : ∀ pair ∈ gold.zip predicted, pair.1 ∈ sentiments :=
  fun _ hpair => hgold _ (List.of_mem_zip hpair).1

include hpredicted in
theorem pairs_predicted : ∀ pair ∈ gold.zip predicted, pair.2 ∈ sentiments :=
  fun _ hpair => hpredicted _ (List.of_mem_zip hpair).2

include hgold hpredicted

theorem universe_subset : labelUniverse (singletons gold) (singletons predicted) ⊆ sentiments := by
  intro label hlabel
  rw [mem_universe, occurs_singletons, occurs_singletons] at hlabel
  exact hlabel.elim (hgold label) (hpredicted label)

theorem sum_universe : ((labelUniverse (singletons gold) (singletons predicted)).map fun label =>
      (labelScore (singletonItems (gold.zip predicted)) label).f1).sum
    = (sentiments.map fun label => (labelScore (singletonItems (gold.zip predicted)) label).f1).sum := by
  refine sum_part sentiments_nodup (labelUniverse_nodup _ _) (universe_subset hgold hpredicted)
    fun label _ hnot => ?_
  rw [mem_universe, occurs_singletons] at hnot
  rw [labelScore_of_not_mem fun hmem => hnot (.inl hmem)]

variable (hlength : gold.length = predicted.length)

include hlength

omit hgold hpredicted in
theorem countP_gold (label : String) : (gold.zip predicted).countP (·.1 = label) = gold.count label := by
  conv_rhs => rw [← List.map_fst_zip hlength.le, List.count, List.countP_map]
  exact List.countP_congr fun pair _ => by simp

theorem support_eq (label : String) :
    (sentimentScore (gold.zip predicted) label).support = gold.count label := by
  rw [sentimentScore_eq (pairs_gold hgold) (pairs_predicted hpredicted)]
  show (labelCounts _ label).truePositives + (labelCounts _ label).falseNegatives = _
  rw [labelCounts_gold, singletonItems, List.countP_map, ← countP_gold hlength]
  exact List.countP_congr fun pair _ => by simp [@eq_comm _ label]

/-- The sentiments that the macro score is an average over. -/
theorem observed_eq :
    ((sentiments.map (sentimentScore (gold.zip predicted))).filter (·.support ≠ 0)).map (·.f1)
      = (sentiments.filter (· ∈ gold)).map fun label =>
          (labelScore (singletonItems (gold.zip predicted)) label).f1 := by
  rw [List.filter_map, List.map_map]
  have hfilter : sentiments.filter ((fun score : Score => decide (score.support ≠ 0)) ∘
      sentimentScore (gold.zip predicted)) = sentiments.filter (· ∈ gold) := by
    refine List.filter_congr fun label _ => ?_
    simp [support_eq hgold hpredicted hlength, List.count_eq_zero]
  rw [hfilter]
  refine List.map_congr_left fun label _ => ?_
  rw [Function.comp_apply, sentimentScore_eq (pairs_gold hgold) (pairs_predicted hpredicted)]

theorem sentimentAgreement_of (hne : gold ≠ []) :
    SentimentAgreement gold predicted (.of (gold.zip predicted))
      (.of (singletonItems (gold.zip predicted))
        (labelUniverse (singletons gold) (singletons predicted))) := by
  set pairs := gold.zip predicted with hpairs
  set labels := labelUniverse (singletons gold) (singletons predicted) with hlabels
  have hcount : pairs.length = gold.length := by simp [hpairs, ← hlength]
  have hdef := setDefinition_of (show (singletons gold).length = (singletons predicted).length by
    simpa [singletons] using hlength) (by simpa [singletons] using hne)
  rw [singletons_zip, ← hpairs, ← hlabels] at hdef
  have hshared : (SentimentMetrics.of pairs).accuracy
      = sharedTotal (singletons gold) (singletons predicted) / gold.length := by
    rw [sharedTotal_singletons, ← agreements_eq (pairs_gold hgold), ← hcount]
    rfl
  have hscore (label : String) : sentimentScore pairs label = labelScore (singletonItems pairs) label :=
    sentimentScore_eq (pairs_gold hgold) (pairs_predicted hpredicted) label
  have hitem {label : String} (hlabel : label ∈ sentiments) :
      Python.item (SentimentMetrics.of pairs).perSentiment label = .ok (sentimentScore pairs label) :=
    Python.item_table hlabel
  have hdistinct : (gold.dedup.length : ℚ) ≠ 0 := by simpa using hne
  have hmacro : (SentimentMetrics.of pairs).macroF1 * gold.dedup.length
      = (sentiments.map fun label => (labelScore (singletonItems pairs) label).f1).sum := by
    have haverage : (SentimentMetrics.of pairs).macroF1
        = ((sentiments.filter (· ∈ gold)).map fun label => (labelScore (singletonItems pairs) label).f1).sum
          / gold.dedup.length := by
      rw [← length_observed hgold, ← List.length_map, ← observed_eq hgold hpredicted hlength]
      rfl
    rw [haverage, div_mul_cancel₀ _ hdistinct, sum_observed]
  have hlabelCount : gold.dedup.length ≤ labels.length := by
    refine (List.subperm_of_subset (List.nodup_dedup gold) fun label hlabel => ?_).length_le
    exact mem_universe.mpr (.inl (occurs_singletons.mpr (List.mem_dedup.mp hlabel)))
  have hlabelCount' : (labels.length : ℚ) ≠ 0 := by
    rw [Nat.cast_ne_zero] at hdistinct ⊢
    omega
  have hmacro' : (ClassificationMetrics.of (singletonItems pairs) labels).macroScore.f1 * labels.length
      = (sentiments.map fun label => (labelScore (singletonItems pairs) label).f1).sum := by
    rw [← sum_universe hgold hpredicted]
    exact div_mul_cancel₀ _ hlabelCount'
  refine
    { micro_precision := ?_, micro_recalled := ?_, micro_f1 := ?_, sentiments_scored := rfl
      occurring := ?_, others := ?_, macro_f1 := hmacro.trans hmacro'.symm, macro_f1_le := ?_
      rows := ?_, rows_sum := ?_ }
  · rw [hshared, hdef.micro_precision, labelTotal_singletons, hlength]
  · rw [hshared, hdef.micro_recalled, labelTotal_singletons]
  · rw [hshared, hdef.micro_f1, labelTotal_singletons, labelTotal_singletons, ← hlength, ← two_mul,
      mul_div_mul_left _ _ two_ne_zero]
  · intro label hlabel
    have hknown : label ∈ sentiments := hlabel.elim (hgold label) (hpredicted label)
    refine ⟨_, hitem hknown, ?_⟩
    rw [hscore]
    refine Python.item_table (mem_universe.mpr ?_)
    rwa [occurs_singletons, occurs_singletons]
  · intro label hlabel hmissing _
    rw [hitem hlabel, hscore, labelScore_of_not_mem hmissing]
  · have hproduct := hmacro.trans hmacro'.symm
    have hlt : (0 : ℚ) < labels.length := lt_of_le_of_ne (by positivity) hlabelCount'.symm
    have hnonneg : 0 ≤ (SentimentMetrics.of pairs).macroF1 := by
      refine nonneg_of_mul_nonneg_left ?_ (lt_of_le_of_ne (by positivity) hdistinct.symm)
      rw [hproduct]
      exact mul_nonneg hdef.macro_inRange.f1.1 hlt.le
    refine le_of_mul_le_mul_right ?_ hlt
    rw [← hproduct]
    exact mul_le_mul_of_nonneg_left (by exact_mod_cast hlabelCount) hnonneg
  · intro label hlabel
    have hrow : Python.item (SentimentMetrics.of pairs).confusion label
        = .ok (sentiments.map fun predicted => (predicted, pairs.count (label, predicted))) :=
      @Confusion.item_table (fun actual predicted => pairs.count (actual, predicted)) label hlabel
    have hsupport := support_eq hgold hpredicted hlength label
    refine ⟨_, _, hrow, hitem hlabel, ?_, hsupport⟩
    rw [hsupport, ← countP_gold hlength, ← row_sum (pairs_predicted hpredicted), List.map_map]
    rfl
  · have hrows := sum_countP_label sentiments_nodup pairs (fun _ => true) (·.1) (pairs_gold hgold)
    simp only [SentimentMetrics.of, Confusion.table, List.map_map, Function.comp_def,
      @row_sum pairs (pairs_predicted hpredicted)]
    simpa using hrows

end Results

/-- **The matrix scorer agrees with the label-set scorer** on the same sentiments, taken as sets of one label
each: in the accuracy, in the score of each sentiment and, up to the number of labels, in the macro score. -/
theorem sentiment_classification_agree (repr : Python.Repr) {gold predicted : List String}
    (hlength : gold.length = predicted.length) (hne : gold ≠ [])
    (hgold : ∀ label ∈ gold, label ∈ sentiments) (hpredicted : ∀ label ∈ predicted, label ∈ sentiments) :
    ∃ sentiment classification, sentimentMetrics repr gold predicted = .ok sentiment ∧
      classificationMetrics (singletons gold) (singletons predicted) = .ok classification ∧
        SentimentAgreement gold predicted sentiment classification := by
  refine ⟨_, _, sentimentMetrics_eq repr hlength hne hgold hpredicted,
    classificationMetrics_eq (by simpa [singletons] using hlength) (by simpa [singletons] using hne), ?_⟩
  rw [singletons_zip]
  exact sentimentAgreement_of hgold hpredicted hlength hne

/-- One agreement, and one mistake that names a sentiment nobody has. -/
theorem sentiment_classification_agree_two :
    ∃ sentiment classification,
      sentimentMetrics ⟨fun text => "'" ++ text ++ "'", fun _ => "0.0"⟩ ["positive", "positive"]
        ["positive", "neutral"] = .ok sentiment ∧
      classificationMetrics (singletons ["positive", "positive"]) (singletons ["positive", "neutral"])
        = .ok classification ∧
      SentimentAgreement ["positive", "positive"] ["positive", "neutral"] sentiment classification :=
  sentiment_classification_agree _ rfl (List.cons_ne_nil _ _) (by decide) (by decide)

end ReviewSignal
