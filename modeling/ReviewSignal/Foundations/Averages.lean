import Mathlib.Algebra.BigOperators.Fin
import Mathlib.Algebra.Order.BigOperators.Group.List
import Mathlib.Algebra.Order.Chebyshev
import Mathlib.Tactic.Positivity

/-!
# Averages over a list

An average is a sum divided by a length, and zero of no elements.

* `average_eq_one_iff` — of values that are at most one an average is at most one, and equal to it only when
  all of them are and there is one;
* `sq_average_le` — the square of an average is at most the average of the squares;
* `average_cons_zero_le`, `average_cons_zero_lt` — one more value that is zero lowers an average that was
  positive, and no other.

The values are elements of a linearly ordered field.  Lists are what programs sum over, so the facts are about
lists and not about finite sets.
-/

namespace ReviewSignal

variable {α K : Type} [Field K] [LinearOrder K] [IsStrictOrderedRing K] {l : List α} {f : α → K}

theorem average_nonneg (h : ∀ a ∈ l, 0 ≤ f a) : 0 ≤ (l.map f).sum / l.length :=
  div_nonneg (List.sum_nonneg (by simpa using h)) (by positivity)

theorem sum_le_length (h : ∀ a ∈ l, f a ≤ 1) : (l.map f).sum ≤ l.length := by
  simpa using List.sum_le_sum h

theorem average_le_one (h : ∀ a ∈ l, f a ≤ 1) : (l.map f).sum / l.length ≤ 1 :=
  div_le_one_of_le₀ (sum_le_length h) (by positivity)

/-- One value that is less than one is enough for the average to be. -/
theorem average_eq_one_iff (h : ∀ a ∈ l, f a ≤ 1) :
    (l.map f).sum / l.length = 1 ↔ l ≠ [] ∧ ∀ a ∈ l, f a = 1 := by
  rcases eq_or_ne l [] with rfl | hne
  · simp
  · have hlength : (l.length : K) ≠ 0 := by simpa using hne
    rw [div_eq_one_iff_eq hlength, and_iff_right hne]
    constructor
    · intro hsum
      by_contra hless
      simp only [not_forall] at hless
      obtain ⟨a, ha, hne⟩ := hless
      have hlt : (l.map f).sum < (l.map fun _ => (1 : K)).sum :=
        List.sum_lt_sum _ _ h ⟨a, ha, lt_of_le_of_ne (h a ha) hne⟩
      simp [hsum] at hlt
    · intro hone
      rw [List.map_congr_left hone]
      simp

theorem abs_sum_le (l : List α) (f : α → K) : |(l.map f).sum| ≤ (l.map fun a => |f a|).sum := by
  induction l with
  | nil => simp
  | cons a l ih =>
      rw [List.map_cons, List.sum_cons, List.map_cons, List.sum_cons]
      exact (abs_add_le _ _).trans (by gcongr)

theorem sq_average_le (l : List α) (f : α → K) :
    ((l.map f).sum / l.length) ^ 2 ≤ (l.map fun a => f a ^ 2).sum / l.length := by
  have hsums := @sum_div_card_sq_le_sum_sq_div_card _ _ _ _ _ _ (Finset.univ : Finset (Fin l.length))
    (fun i => f l[i.1])
  rwa [Fin.sum_univ_fun_getElem l f, Fin.sum_univ_fun_getElem l (fun a => f a ^ 2), Finset.card_fin]
    at hsums

/-- One more value that is zero makes an average no larger. -/
theorem average_cons_zero_le {a : α} (ha : f a = 0) (h : ∀ b ∈ l, 0 ≤ f b) :
    ((a :: l).map f).sum / (a :: l).length ≤ (l.map f).sum / l.length := by
  have hsum : 0 ≤ (l.map f).sum := List.sum_nonneg (by simpa using h)
  rw [List.map_cons, List.sum_cons, ha, zero_add, List.length_cons]
  rcases Nat.eq_zero_or_pos l.length with hempty | hpositive
  · simp [List.length_eq_zero_iff.mp hempty]
  · exact div_le_div_of_nonneg_left hsum (by exact_mod_cast hpositive) (by simp)

/-- And a positive one smaller. -/
theorem average_cons_zero_lt {a : α} (ha : f a = 0) (hpositive : 0 < (l.map f).sum / l.length) :
    ((a :: l).map f).sum / (a :: l).length < (l.map f).sum / l.length := by
  have hlength : (0 : K) < l.length := by
    by_contra hempty
    have hzero : (l.length : K) = 0 := le_antisymm (not_lt.mp hempty) (Nat.cast_nonneg _)
    simp [hzero] at hpositive
  have hsum : 0 < (l.map f).sum := by
    rwa [div_pos_iff_of_pos_right hlength] at hpositive
  rw [List.map_cons, List.sum_cons, ha, zero_add, List.length_cons]
  exact div_lt_div_of_pos_left hsum hlength (by simp)

end ReviewSignal
