import Mathlib.Algebra.BigOperators.Group.List.Basic
import Mathlib.Data.List.Forall2
import Mathlib.Data.List.Perm.Basic

/-!
# Rearranged lists

Two lists are rearranged when the elements of one, each replaced by a related one, are in some order
those of the other.  What is counted or collected over one is then counted or collected over the
other, as soon as related elements give the same.

It is a permutation up to a relation.  With the relation itself a permutation, one statement covers a list
whose elements are reordered and whose elements' elements are.
-/

namespace ReviewSignal

variable {α β γ : Type}

/-- The elements of one list are related to those of the other, in some order. -/
def Rearranged (related : α → β → Prop) (left : List α) (right : List β) : Prop :=
  ∃ middle, List.Forall₂ related left middle ∧ middle.Perm right

namespace Rearranged

variable {related : α → β → Prop} {left : List α} {right : List β}

theorem length_eq (h : Rearranged related left right) : left.length = right.length := by
  obtain ⟨middle, hrelated, hperm⟩ := h
  rw [hrelated.length_eq, hperm.length_eq]

theorem countP_eq (h : Rearranged related left right) {p : α → Bool} {q : β → Bool}
    (hsame : ∀ a b, related a b → p a = q b) : left.countP p = right.countP q := by
  obtain ⟨middle, hrelated, hperm⟩ := h
  rw [← hperm.countP_eq]
  induction hrelated generalizing right with
  | nil => rfl
  | cons hhead _ ih =>
      rw [List.countP_cons, List.countP_cons, ih (List.Perm.refl _), hsame _ _ hhead]

theorem flatMap_perm (h : Rearranged related left right) {f : α → List γ} {g : β → List γ}
    (hsame : ∀ a b, related a b → (f a).Perm (g b)) :
    (left.flatMap f).Perm (right.flatMap g) := by
  obtain ⟨middle, hrelated, hperm⟩ := h
  refine List.Perm.trans ?_ (hperm.flatMap_right g)
  clear hperm
  induction hrelated with
  | nil => rfl
  | cons hhead _ ih =>
      rw [List.flatMap_cons, List.flatMap_cons]
      exact (hsame _ _ hhead).append ih

theorem forall_iff (h : Rearranged related left right) {p : α → Prop} {q : β → Prop}
    (hsame : ∀ a b, related a b → (p a ↔ q b)) : (∀ a ∈ left, p a) ↔ ∀ b ∈ right, q b := by
  obtain ⟨middle, hrelated, hperm⟩ := h
  simp only [← hperm.mem_iff]
  clear hperm
  induction hrelated with
  | nil => simp
  | cons hhead _ ih => rw [List.forall_mem_cons, List.forall_mem_cons, ih, hsame _ _ hhead]

end Rearranged

end ReviewSignal
