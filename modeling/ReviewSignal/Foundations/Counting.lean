import Mathlib.Algebra.BigOperators.Group.Finset.Basic
import Mathlib.Algebra.BigOperators.Group.List.Basic
import Mathlib.Algebra.GroupWithZero.Nat
import Mathlib.Data.List.Dedup
import Mathlib.Data.List.Nodup
import Mathlib.Data.List.Perm.Basic
import Mathlib.Data.Finset.Card

/-!
# Counting twice

A table of labels and items can be counted by its rows or by its columns (`sum_countP_comm`); where
every item carries one label the columns add up to the items (`sum_countP_label`), and summing by label is
summing (`sum_groups`).

These are the double countings of finite sums, for lists: a list may hold an element twice, and its counts
then do as well.  The labels are a list without repetition, and what is no label of any item adds nothing
(`sum_part`).
-/

namespace ReviewSignal

variable {α β : Type}

theorem countP_eq_sum (l : List α) (p : α → Bool) :
    l.countP p = (l.map fun a => if p a then 1 else 0).sum := by
  induction l with
  | nil => rfl
  | cons a l ih =>
      rw [List.countP_cons, List.map_cons, List.sum_cons, ih, Nat.add_comm]

/-- The items of every label, against the labels of every item. -/
theorem sum_countP_comm (labels : List α) (items : List β) (r : α → β → Bool) :
    (labels.map fun label => items.countP (r label)).sum
      = (items.map fun item => labels.countP (r · item)).sum := by
  induction items with
  | nil => simp
  | cons item items ih =>
      simp only [List.countP_cons, List.sum_map_add, List.map_cons, List.sum_cons, ih,
        ← countP_eq_sum labels (r · item)]
      omega

/-- What satisfies a condition either satisfies another one with it or does not. -/
theorem countP_and_add (l : List α) (p q : α → Bool) :
    l.countP (fun a => p a && q a) + l.countP (fun a => !p a && q a) = l.countP q := by
  induction l with
  | nil => rfl
  | cons a l ih =>
      simp only [List.countP_cons, ← ih]
      cases p a <;> cases q a <;> simp <;> omega

/-- What satisfies both of two conditions is counted twice. -/
theorem countP_add_countP (l : List α) (p q : α → Bool) :
    l.countP p + l.countP q = l.countP (fun a => p a || q a) + l.countP (fun a => p a && q a) := by
  induction l with
  | nil => rfl
  | cons a l ih =>
      simp only [List.countP_cons]
      cases p a <;> cases q a <;> simp <;> omega

/-- The labels of a set among all labels. -/
theorem countP_mem [DecidableEq α] {labels set : List α} (hlabels : labels.Nodup) (hset : set.Nodup)
    (hsubset : set ⊆ labels) : labels.countP (· ∈ set) = set.length := by
  rw [List.countP_eq_length_filter]
  refine List.Perm.length_eq ((List.perm_ext_iff_of_nodup (hlabels.filter _) hset).mpr fun a => ?_)
  simpa using fun h => hsubset h

/-- Where every item carries one label, the labels add up to the items. -/
theorem sum_countP_label [DecidableEq α] {labels : List α} (hlabels : labels.Nodup)
    (items : List β) (p : β → Bool) (f : β → α) (hmem : ∀ item ∈ items, f item ∈ labels) :
    (labels.map fun label => items.countP fun item => p item && f item = label).sum
      = items.countP p := by
  rw [sum_countP_comm, countP_eq_sum items p]
  refine congrArg List.sum (List.map_congr_left fun item hitem => ?_)
  cases p item
  · simp
  · rw [if_pos rfl, ← List.count_eq_one_of_mem hlabels (hmem item hitem), List.count]
    exact List.countP_congr fun label _ => by simpa using eq_comm

/-- Counting labels of all sets is counting the sets' elements. -/
theorem sum_countP_mem [DecidableEq α] {labels : List α} (hlabels : labels.Nodup) {items : List β}
    {f : β → List α} (hsubset : ∀ item ∈ items, f item ⊆ labels) :
    (labels.map fun label => items.countP (label ∈ f ·)).sum
      = (items.map fun item => (f item).toFinset.card).sum := by
  rw [sum_countP_comm labels items fun label item => decide (label ∈ f item)]
  refine congrArg List.sum (List.map_congr_left fun item hitem => ?_)
  have hset : (f item).dedup ⊆ labels := fun a ha => hsubset item hitem (List.mem_dedup.mp ha)
  rw [List.card_toFinset, ← countP_mem hlabels (List.nodup_dedup _) hset]
  simp

/-- What is zero outside a part sums up over the part. -/
theorem sum_part {M : Type} [AddCommMonoid M] [DecidableEq α] {labels part : List α}
    (hlabels : labels.Nodup) (hpart : part.Nodup) (hsubset : part ⊆ labels) {f : α → M}
    (hzero : ∀ a ∈ labels, a ∉ part → f a = 0) : (part.map f).sum = (labels.map f).sum := by
  rw [← List.sum_toFinset f hpart, ← List.sum_toFinset f hlabels]
  refine Finset.sum_subset (fun a ha => ?_) (by simpa using hzero)
  rw [List.mem_toFinset] at ha ⊢
  exact hsubset ha

/-- Summing by label is summing. -/
theorem sum_groups {M : Type} [AddCommMonoid M] [DecidableEq α] {labels : List α}
    (hlabels : labels.Nodup) {items : List β} (label : β → α) (f : β → M)
    (hmem : ∀ item ∈ items, label item ∈ labels) :
    (labels.map fun a => ((items.filter (label · = a)).map f).sum).sum = (items.map f).sum := by
  induction items with
  | nil => simp
  | cons item items ih =>
      rw [List.forall_mem_cons] at hmem
      have hgroup (a : α) : (((item :: items).filter (label · = a)).map f).sum
          = (if a = label item then f item else 0) + ((items.filter (label · = a)).map f).sum := by
        by_cases h : label item = a
        · simp [h]
        · simp [h, Ne.symm h]
      have hown : (labels.map fun a => if a = label item then f item else 0).sum = f item := by
        rw [List.sum_map_eq_nsmul_single (label item) _ fun a hne _ => if_neg hne,
          List.count_eq_one_of_mem hlabels hmem.1, one_nsmul, if_pos rfl]
      simp only [hgroup, List.sum_map_add, ih hmem.2, hown, List.map_cons, List.sum_cons]

/-- What a filter keeps of the distinct elements. -/
theorem dedup_filter [DecidableEq α] (p : α → Bool) (l : List α) : (l.filter p).dedup = l.dedup.filter p := by
  induction l with
  | nil => rfl
  | cons a l ih =>
      by_cases hp : p a
      · rw [List.filter_cons_of_pos hp]
        by_cases hmem : a ∈ l
        · rw [List.dedup_cons_of_mem hmem, List.dedup_cons_of_mem (List.mem_filter.mpr ⟨hmem, hp⟩), ih]
        · rw [List.dedup_cons_of_notMem hmem, List.filter_cons_of_pos hp, ← ih,
            List.dedup_cons_of_notMem fun h => hmem (List.mem_filter.mp h).1]
      · rw [List.filter_cons_of_neg hp, ih]
        by_cases hmem : a ∈ l
        · rw [List.dedup_cons_of_mem hmem]
        · rw [List.dedup_cons_of_notMem hmem, List.filter_cons_of_neg hp]

end ReviewSignal
