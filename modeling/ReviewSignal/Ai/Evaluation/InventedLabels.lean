import ReviewSignal.Ai.Evaluation.SetDefinition

/-!
# Inventing a label

Adding a label that no item has to one prediction changes nothing but the false positives of that label.
Every label keeps its score (`labelScore_invent`), the invented one a score of zero, so that the micro score
has a larger denominator and the macro scores may have one more zero to average over.

**`inventing_never_pays`** compares the two runs: no score of the second is above that of the first.  It also
says when one is below: a micro score, but for the recall, if it was not zero and the label is new to the
prediction, and a macro score if it was not zero and the label is new to all of them.

The label may already be predicted for another item.  Then the universe stays as it is, and the macro scores
do not change; this is why the result is about the label of one prediction and not about a new one.
-/

namespace ReviewSignal

/-- The predictions with the label added to the set at an index. -/
def invent (label : String) (index : ℕ) (predicted : List (List String)) : List (List String) :=
  predicted.modify index (·.insert label)

/-- What becomes of the metrics when the label is added to the prediction at the index. -/
structure NeverPays (predicted : List (List String)) (label : String) (index : ℕ)
    (before after : ClassificationMetrics) : Prop where
  micro_recalled : after.micro.recalled = before.micro.recalled
  micro_precision : after.micro.precision ≤ before.micro.precision
  micro_f1 : after.micro.f1 ≤ before.micro.f1
  macro_precision : after.macroScore.precision ≤ before.macroScore.precision
  macro_recalled : after.macroScore.recalled ≤ before.macroScore.recalled
  macro_f1 : after.macroScore.f1 ≤ before.macroScore.f1
  label_count_new : ¬ Occurs predicted label → after.labelCount = before.labelCount + 1
  label_count_old : Occurs predicted label → after.labelCount = before.labelCount
  micro_precision_lt : (∀ set ∈ predicted[index]?, label ∉ set) → 0 < before.micro.precision →
    after.micro.precision < before.micro.precision
  micro_f1_lt : (∀ set ∈ predicted[index]?, label ∉ set) → 0 < before.micro.f1 →
    after.micro.f1 < before.micro.f1
  macro_precision_lt : ¬ Occurs predicted label → 0 < before.macroScore.precision →
    after.macroScore.precision < before.macroScore.precision
  macro_recalled_lt : ¬ Occurs predicted label → 0 < before.macroScore.recalled →
    after.macroScore.recalled < before.macroScore.recalled
  macro_f1_lt : ¬ Occurs predicted label → 0 < before.macroScore.f1 →
    after.macroScore.f1 < before.macroScore.f1

/-! ## The scores of the labels

The counts of every other label are those of the first run, and a label without items scores zero whatever is
predicted. -/

section Items

variable {left right : List (List String × List String)} {gold set : List String} {label : String}

/-- **No label changes its score.** -/
theorem labelScore_invent (hlabel : ∀ item ∈ left ++ (gold, set) :: right, label ∉ item.1)
    (other : String) : labelScore (left ++ (gold, set.insert label) :: right) other
      = labelScore (left ++ (gold, set) :: right) other := by
  by_cases hother : other = label
  · have hinvented : ∀ item ∈ left ++ (gold, set.insert label) :: right, label ∉ item.1 := by
      simpa only [List.forall_mem_append, List.forall_mem_cons] using hlabel
    rw [hother, labelScore_of_not_gold hlabel, labelScore_of_not_gold hinvented]
  · have hmem : other ∈ set.insert label ↔ other ∈ set := by simp [hother]
    simp only [labelScore, labelCounts, List.countP_append, List.countP_cons, hmem]

end Items

/-! ## The label universe

It grows by the label or stays as it is. -/

section Universe

variable {gold left right : List (List String)} {set : List String} {label : String}

theorem occurs_invent {other : String} : Occurs (left ++ set.insert label :: right) other
    ↔ Occurs (left ++ set :: right) other ∨ other = label := by
  simp only [Occurs, List.mem_append, List.mem_cons, or_and_right, exists_or, exists_eq_left,
    List.mem_insert_iff]
  grind

/-- The universe grows by the label if it is new, and stays as it is otherwise. -/
theorem labelUniverse_invent :
    (label ∈ labelUniverse gold (left ++ set :: right) →
      (labelUniverse gold (left ++ set.insert label :: right)).Perm
        (labelUniverse gold (left ++ set :: right))) ∧
    (label ∉ labelUniverse gold (left ++ set :: right) →
      (labelUniverse gold (left ++ set.insert label :: right)).Perm
        (label :: labelUniverse gold (left ++ set :: right))) := by
  have hmem (other : String) : other ∈ labelUniverse gold (left ++ set.insert label :: right)
      ↔ other = label ∨ other ∈ labelUniverse gold (left ++ set :: right) := by
    rw [mem_universe, mem_universe, occurs_invent]
    tauto
  have hnodup := labelUniverse_nodup gold (left ++ set :: right)
  constructor
  · intro hold
    refine (List.perm_ext_iff_of_nodup (labelUniverse_nodup _ _) hnodup).mpr fun other => ?_
    rw [hmem]
    exact or_iff_right_of_imp fun heq => heq ▸ hold
  · intro hnew
    refine (List.perm_ext_iff_of_nodup (labelUniverse_nodup _ _) (hnodup.cons hnew)).mpr fun other => ?_
    rw [hmem, List.mem_cons]

end Universe

/-! ## The macro scores

Averages over two lists, of which the second has one more zero at most. -/

/-- The average of one of the scores. -/
def macroAverage (score : Score → ℚ) (items : List (List String × List String)) (labels : List String) : ℚ :=
  (labels.map fun label => score (labelScore items label)).sum / labels.length

section Macro

variable {items : List (List String × List String)} {labels labels' : List String} {label : String}
  {score : Score → ℚ}

theorem macroAverage_perm (h : labels'.Perm labels) :
    macroAverage score items labels' = macroAverage score items labels := by
  rw [macroAverage, macroAverage, (h.map _).sum_eq, h.length_eq]

/-- **One more label that scores nothing.** -/
theorem macroAverage_le (hlabel : score (labelScore items label) = 0)
    (hnonneg : ∀ other, 0 ≤ score (labelScore items other))
    (hlabels : labels'.Perm labels ∨ labels'.Perm (label :: labels)) :
    macroAverage score items labels' ≤ macroAverage score items labels := by
  rcases hlabels with hsame | hnew
  · exact (macroAverage_perm hsame).le
  · rw [macroAverage_perm hnew]
    exact average_cons_zero_le hlabel fun other _ => hnonneg other

theorem macroAverage_lt (hlabel : score (labelScore items label) = 0)
    (hnew : labels'.Perm (label :: labels)) (hpositive : 0 < macroAverage score items labels) :
    macroAverage score items labels' < macroAverage score items labels := by
  rw [macroAverage_perm hnew]
  exact average_cons_zero_lt hlabel hpositive

end Macro

/-! ## The micro score

Only the number of predictions grows. -/

section Micro

variable {goldLeft goldRight left right : List (List String)} {gold set : List String} {label : String}

theorem sharedTotal_invent (hlength : goldLeft.length = left.length) (hlabel : label ∉ gold) :
    sharedTotal (goldLeft ++ gold :: goldRight) (left ++ set.insert label :: right)
      = sharedTotal (goldLeft ++ gold :: goldRight) (left ++ set :: right) := by
  have hset : gold.toFinset ∩ (set.insert label).toFinset = gold.toFinset ∩ set.toFinset := by
    ext other
    by_cases hother : other = label
    · simp [hother, hlabel]
    · simp [hother]
  simp [sharedTotal, List.zip_append hlength, hset]

theorem labelTotal_invent : labelTotal (left ++ set.insert label :: right)
    = labelTotal (left ++ set :: right) + if label ∈ set then 0 else 1 := by
  have hset : (set.insert label).toFinset.card = set.toFinset.card + if label ∈ set then 0 else 1 := by
    have hinsert : (set.insert label).toFinset = insert label set.toFinset := by
      ext other
      simp
    rw [hinsert]
    split_ifs with hmem
    · rw [Finset.card_insert_of_mem (List.mem_toFinset.mpr hmem), Nat.add_zero]
    · rw [Finset.card_insert_of_notMem (by simpa using hmem)]
  simp only [labelTotal, List.map_append, List.map_cons, List.sum_append, List.sum_cons, hset]
  omega

end Micro

/-- A denominator that does not shrink. -/
theorem div_le_of_le {shared total total' : ℚ} (hshared : 0 ≤ shared) (htotal : 0 ≤ total)
    (hle : total ≤ total') (hzero : total = 0 → shared = 0) : shared / total' ≤ shared / total := by
  rcases htotal.eq_or_lt with hempty | hpositive
  · simp [hzero hempty.symm]
  · exact div_le_div_of_nonneg_left hshared hpositive hle

theorem div_lt_of_lt {shared total total' : ℚ} (htotal : 0 ≤ total) (hlt : total < total')
    (hpositive : 0 < shared / total) : shared / total' < shared / total := by
  have htotal' : 0 < total := by
    refine htotal.lt_of_ne fun hempty => ?_
    simp [← hempty] at hpositive
  have hshared : 0 < shared := by rwa [div_pos_iff_of_pos_right htotal'] at hpositive
  exact div_lt_div_of_pos_left hshared htotal' hlt

/-! ## The two runs

The predictions of the second are those of the first but for one set. -/

section Runs

variable {goldLeft goldRight left right : List (List String)} {gold set : List String} {label : String}

theorem zip_split (hleft : goldLeft.length = left.length) (set : List String) :
    (goldLeft ++ gold :: goldRight).zip (left ++ set :: right)
      = goldLeft.zip left ++ (gold, set) :: goldRight.zip right := by
  rw [List.zip_append hleft, List.zip_cons_cons]

variable (hleft : goldLeft.length = left.length) (hright : goldRight.length = right.length)
  (hlabel : ¬ Occurs (goldLeft ++ gold :: goldRight) label)

include hleft hlabel

/-- **The macro scores of the two runs**, over the items of the first. -/
theorem macroAverage_invent (score : Score → ℚ) (labels : List String) :
    macroAverage score ((goldLeft ++ gold :: goldRight).zip (left ++ set.insert label :: right)) labels
      = macroAverage score ((goldLeft ++ gold :: goldRight).zip (left ++ set :: right)) labels := by
  have hunheard : ∀ item ∈ goldLeft.zip left ++ (gold, set) :: goldRight.zip right, label ∉ item.1 := by
    intro item hitem hmem
    rw [← zip_split hleft] at hitem
    exact hlabel ⟨item.1, (List.of_mem_zip hitem).1, hmem⟩
  simp only [macroAverage, zip_split hleft, labelScore_invent hunheard]

omit hleft in
theorem labelScore_unheard (predicted : List (List String)) :
    labelScore ((goldLeft ++ gold :: goldRight).zip predicted) label = ⟨0, 0, 0, 0⟩ :=
  labelScore_of_not_gold fun item hitem hmem => hlabel ⟨item.1, (List.of_mem_zip hitem).1, hmem⟩

include hright

theorem neverPays_of :
    NeverPays (left ++ set :: right) label left.length
      (.of ((goldLeft ++ gold :: goldRight).zip (left ++ set :: right))
        (labelUniverse (goldLeft ++ gold :: goldRight) (left ++ set :: right)))
      (.of ((goldLeft ++ gold :: goldRight).zip (left ++ set.insert label :: right))
        (labelUniverse (goldLeft ++ gold :: goldRight) (left ++ set.insert label :: right))) := by
  have hgold : label ∉ gold := fun hmem => hlabel ⟨gold, by simp, hmem⟩
  have hlength (set : List String) :
      (goldLeft ++ gold :: goldRight).length = (left ++ set :: right).length := by
    simp [hleft, hright]
  have hdef := setDefinition_of (hlength set) (by simp)
  have hdef' := setDefinition_of (hlength (set.insert label)) (by simp)
  obtain ⟨hshared, hpredicted, -⟩ := micro_counts (hlength set)
  have hless : sharedTotal (goldLeft ++ gold :: goldRight) (left ++ set :: right)
      ≤ labelTotal (left ++ set :: right) := by omega
  rw [← sharedTotal_invent hleft hgold] at hless
  -- the macro scores have the items of the first run
  have hold := (@labelUniverse_invent (goldLeft ++ gold :: goldRight) left right set label).1
  have hnew := (@labelUniverse_invent (goldLeft ++ gold :: goldRight) left right set label).2
  have hoccurs : label ∈ labelUniverse (goldLeft ++ gold :: goldRight) (left ++ set :: right)
      ↔ Occurs (left ++ set :: right) label := by
    rw [mem_universe]
    exact or_iff_right hlabel
  rw [hoccurs] at hold hnew
  have hmacro (score : Score → ℚ) (hscore : score ⟨0, 0, 0, 0⟩ = 0)
      (hnonneg : ∀ counted : Score, counted.InRange → 0 ≤ score counted) :=
    (macroAverage_invent hleft hlabel score _).trans_le
      (macroAverage_le (show score (labelScore _ label) = 0 by
          rw [labelScore_unheard hlabel (left ++ set :: right), hscore])
        (fun other => hnonneg _ (labelScore_inRange _ other))
        ((em (Occurs (left ++ set :: right) label)).imp hold hnew))
  have hmacro' (score : Score → ℚ) (hscore : score ⟨0, 0, 0, 0⟩ = 0)
      (hinvented : ¬ Occurs (left ++ set :: right) label) :=
    fun hpositive => (macroAverage_invent hleft hlabel score _).trans_lt
      (macroAverage_lt (show score (labelScore _ label) = 0 by
          rw [labelScore_unheard hlabel (left ++ set :: right), hscore]) (hnew hinvented) hpositive)
  -- the micro scores differ in one denominator
  have hindex : (left ++ set :: right)[left.length]? = some set := by simp
  have hgrows : (labelTotal (left ++ set :: right) : ℚ) ≤ labelTotal (left ++ set.insert label :: right) := by
    rw [labelTotal_invent]
    exact_mod_cast Nat.le_add_right _ _
  have hgrows' (hmissing : ∀ own ∈ (left ++ set :: right)[left.length]?, label ∉ own) :
      (labelTotal (left ++ set :: right) : ℚ) < labelTotal (left ++ set.insert label :: right) := by
    rw [labelTotal_invent, if_neg (hmissing set hindex)]
    exact_mod_cast Nat.lt_succ_self _
  have hempty : (labelTotal (left ++ set :: right) : ℚ) = 0 →
      (sharedTotal (goldLeft ++ gold :: goldRight) (left ++ set :: right) : ℚ) = 0 := by
    intro htotal
    have htotal' := Nat.cast_eq_zero.mp htotal
    exact_mod_cast (show sharedTotal _ _ = 0 by omega)
  refine
    { micro_recalled := ?_, micro_precision := ?_, micro_f1 := ?_
      macro_precision := hmacro (·.precision) rfl fun _ h => h.precision.1
      macro_recalled := hmacro (·.recalled) rfl fun _ h => h.recalled.1
      macro_f1 := hmacro (·.f1) rfl fun _ h => h.f1.1
      label_count_new := fun hinvented => (hnew hinvented).length_eq
      label_count_old := fun hoccurred => (hold hoccurred).length_eq
      micro_precision_lt := ?_, micro_f1_lt := ?_
      macro_precision_lt := hmacro' (·.precision) rfl
      macro_recalled_lt := hmacro' (·.recalled) rfl
      macro_f1_lt := hmacro' (·.f1) rfl }
  · rw [hdef'.micro_recalled, hdef.micro_recalled, sharedTotal_invent hleft hgold]
  · rw [hdef'.micro_precision, hdef.micro_precision, sharedTotal_invent hleft hgold]
    exact div_le_of_le (by positivity) (by positivity) hgrows hempty
  · rw [hdef'.micro_f1, hdef.micro_f1, sharedTotal_invent hleft hgold]
    refine div_le_of_le (by positivity) (by positivity) (by gcongr) fun htotal => ?_
    rw [hempty, mul_zero]
    exact ((add_eq_zero_iff_of_nonneg (by positivity) (by positivity)).mp htotal).2
  · intro hmissing hpositive
    rw [hdef.micro_precision] at hpositive
    rw [hdef'.micro_precision, hdef.micro_precision, sharedTotal_invent hleft hgold]
    exact div_lt_of_lt (by positivity) (hgrows' hmissing) hpositive
  · intro hmissing hpositive
    rw [hdef.micro_f1] at hpositive
    rw [hdef'.micro_f1, hdef.micro_f1, sharedTotal_invent hleft hgold]
    exact div_lt_of_lt (by positivity) (by linarith [hgrows' hmissing]) hpositive

end Runs

theorem of_accepted {gold predicted : List (List String)} {metrics : ClassificationMetrics}
    (h : classificationMetrics gold predicted = .ok metrics) :
    gold.length = predicted.length ∧ gold ≠ [] := by
  rw [classificationMetrics] at h
  by_cases hlength : gold.length = predicted.length
  · refine ⟨hlength, fun hempty => ?_⟩
    rw [if_neg (not_not.mpr hlength), if_pos hempty] at h
    cases h
  · rw [if_pos hlength] at h
    cases h

/-- **Inventing a label never pays.**  If a label that no item has is added to one prediction, no score of the
run is larger than before; `NeverPays` says which are smaller. -/
theorem inventing_never_pays {gold predicted : List (List String)} {before : ClassificationMetrics}
    (haccepted : classificationMetrics gold predicted = .ok before) {index : ℕ}
    (hindex : index < predicted.length) {label : String} (hlabel : ¬ Occurs gold label) :
    ∃ after, classificationMetrics gold (invent label index predicted) = .ok after ∧
      NeverPays predicted label index before after := by
  obtain ⟨hlength, hne⟩ := of_accepted haccepted
  obtain ⟨left, set, right, rfl, hpredicted, hinvented⟩ := List.exists_of_modify (·.insert label) hindex
  obtain ⟨goldLeft, own, goldRight, rfl, hleft, -⟩ := List.exists_of_modify id (hlength ▸ hindex)
  subst hpredicted
  have hright : goldRight.length = right.length := by
    simp only [List.length_append, List.length_cons] at hlength
    omega
  have hlength' : (goldLeft ++ own :: goldRight).length = (left ++ set.insert label :: right).length := by
    simp [hleft, hright]
  rw [classificationMetrics_eq hlength hne, Except.ok.injEq] at haccepted
  rw [invent, hinvented, ← haccepted]
  exact ⟨_, classificationMetrics_eq hlength' hne, neverPays_of hleft hright hlabel⟩

/-- A label nobody has heard of. -/
theorem inventing_never_pays_parking :
    ∃ after, classificationMetrics [["food"]] (invent "parking" 0 [["food"]]) = .ok after ∧
      NeverPays [["food"]] "parking" 0 (.of ([["food"]].zip [["food"]]) (labelUniverse [["food"]] [["food"]]))
        after := by
  have haccepted : classificationMetrics [["food"]] [["food"]] = .ok _ :=
    classificationMetrics_eq rfl (List.cons_ne_nil _ _)
  refine inventing_never_pays haccepted (by decide) ?_
  rintro ⟨set, hset, hmem⟩
  rw [List.mem_singleton] at hset
  simp [hset] at hmem

end ReviewSignal
