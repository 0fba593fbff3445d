import Mathlib.Algebra.Order.Floor.Semiring
import Mathlib.Data.Rat.Floor

/-!
# Cutting a list into pages

`page size k l` is what an offset of `k * size` and a limit of `size` leave of a list.

The pages up to any one are the list so far (`flatMap_page`); a page is full while as many elements are left
(`length_page`), and empty behind the last (`page_eq_nil`).  `lt_ceil_iff` reads the number of pages of a
list, which is a rounded quotient, back as elements.

A list is cut in one order.  Pages of a query whose order leaves ties open are cuts of different lists, and
need not go together.
-/

namespace ReviewSignal

variable {α : Type}

/-- The `k`-th page. -/
def page (size k : ℕ) (l : List α) : List α := (l.drop (k * size)).take size

theorem flatMap_page (size n : ℕ) (l : List α) :
    (List.range n).flatMap (fun k => page size k l) = l.take (n * size) := by
  induction n with
  | zero => simp
  | succ n ih =>
      rw [List.range_succ, List.flatMap_append, ih, Nat.succ_mul, List.take_add]
      simp [page]

theorem length_page {size k : ℕ} {l : List α} (h : (k + 1) * size ≤ l.length) :
    (page size k l).length = size := by
  rw [Nat.succ_mul] at h
  rw [page, List.length_take, List.length_drop]
  omega

theorem page_eq_nil {size k : ℕ} {l : List α} (h : l.length ≤ k * size) : page size k l = [] := by
  rw [page, List.drop_eq_nil_of_le h, List.take_nil]

/-- There is a page for as long as there are elements for it. -/
theorem lt_ceil_iff {size k total : ℕ} (hsize : 0 < size) :
    k < ⌈(total : ℚ) / size⌉₊ ↔ k * size < total := by
  have hpositive : (0 : ℚ) < size := by exact_mod_cast hsize
  rw [Nat.lt_ceil, lt_div_iff₀ hpositive]
  exact_mod_cast Iff.rfl

/-- And for all of them. -/
theorem le_ceil_mul {size total : ℕ} (hsize : 0 < size) : total ≤ ⌈(total : ℚ) / size⌉₊ * size := by
  by_contra hless
  exact absurd ((lt_ceil_iff hsize).mpr (not_le.mp hless)) (lt_irrefl _)

end ReviewSignal
