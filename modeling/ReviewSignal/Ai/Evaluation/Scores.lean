import ReviewSignal.Foundations.Builtins
import Mathlib.Tactic.FieldSimp
import Mathlib.Tactic.Linarith
import Mathlib.Tactic.Positivity

/-!
# Precision, recall and F1

`metrics/scores.py`, in exact rational arithmetic.

A missing denominator counts as a score of zero, in each of the three; the lemmas hold without a word about
it, since division by zero is zero here as well.  `Score.ofCounts_f1` is F1 without the two quotients it is
made of, and `Score.f1_eq_one_iff` says what a perfect one means.
-/

namespace ReviewSignal

/-- `Score`.  `recalled` is the source's `recall`, which Mathlib reserves. -/
structure Score where
  precision : ℚ
  recalled : ℚ
  f1 : ℚ
  support : ℕ
  deriving DecidableEq, Repr

/-- `prf_score` -/
def prfScore (truePositives falsePositives falseNegatives : ℕ) : Except Exn Score := do
  let predicted := truePositives + falsePositives
  let actual := truePositives + falseNegatives
  let precision ← Python.ratio truePositives predicted
  let recalled ← Python.ratio truePositives actual
  let denominator := precision + recalled
  let f1 ← Python.ratio (2 * precision * recalled) denominator
  pure { precision, recalled, f1, support := actual }

/-- `mean` -/
def mean (values : List ℚ) : Except Exn ℚ :=
  if values ≠ [] then Python.div values.sum values.length else .ok 0

/-! ## Their values

The score of some counts, and what is the same of every score. -/

/-- The score of some counts. -/
def Score.ofCounts (truePositives falsePositives falseNegatives : ℕ) : Score :=
  let precision : ℚ := truePositives / (truePositives + falsePositives : ℕ)
  let recalled : ℚ := truePositives / (truePositives + falseNegatives : ℕ)
  { precision, recalled, f1 := 2 * precision * recalled / (precision + recalled)
    support := truePositives + falseNegatives }

theorem prfScore_eq (truePositives falsePositives falseNegatives : ℕ) :
    prfScore truePositives falsePositives falseNegatives
      = .ok (.ofCounts truePositives falsePositives falseNegatives) := by
  simp only [prfScore, Python.ratio_eq]
  rfl

theorem mean_eq (values : List ℚ) : mean values = .ok (values.sum / values.length) := by
  rw [mean]
  split_ifs with h
  · refine Python.div_eq ?_
    simpa using h
  · simp [not_ne_iff.mp h]

/-- Precision counts what was predicted, recall what was there; nothing is lost to a missing
denominator. -/
theorem Score.ofCounts_mul (truePositives falsePositives falseNegatives : ℕ) :
    let score := Score.ofCounts truePositives falsePositives falseNegatives
    score.precision * (truePositives + falsePositives : ℕ) = truePositives ∧
    score.recalled * score.support = truePositives := by
  have hdiv (part : ℕ) (rest : ℕ) :
      (part : ℚ) / (part + rest : ℕ) * (part + rest : ℕ) = part := by
    by_cases h : part + rest = 0
    · have hpart : part = 0 := by omega
      simp [hpart]
    · exact div_mul_cancel₀ _ (by exact_mod_cast h)
  exact ⟨hdiv _ _, hdiv _ _⟩

/-- **F1 without the two quotients it is made of.** -/
theorem Score.ofCounts_f1 (truePositives falsePositives falseNegatives : ℕ) :
    (Score.ofCounts truePositives falsePositives falseNegatives).f1
      = 2 * truePositives
        / ((truePositives + falseNegatives : ℕ) + (truePositives + falsePositives : ℕ)) := by
  rcases Nat.eq_zero_or_pos truePositives with rfl | hpositive
  · simp [Score.ofCounts]
  · have htrue : (truePositives : ℚ) ≠ 0 := by positivity
    have hpredicted : ((truePositives + falsePositives : ℕ) : ℚ) ≠ 0 := by positivity
    have hactual : ((truePositives + falseNegatives : ℕ) : ℚ) ≠ 0 := by positivity
    have hsum : ((truePositives + falseNegatives : ℕ) : ℚ) + (truePositives + falsePositives : ℕ) ≠ 0 := by
      positivity
    have hquotients : (truePositives : ℚ) / (truePositives + falsePositives : ℕ)
        + truePositives / (truePositives + falseNegatives : ℕ) ≠ 0 := by positivity
    simp only [Score.ofCounts]
    field_simp

/-- A quotient of a count and a larger one. -/
theorem part_div_range (part rest : ℕ) :
    0 ≤ (part : ℚ) / (part + rest : ℕ) ∧ (part : ℚ) / (part + rest : ℕ) ≤ 1 := by
  refine ⟨by positivity, div_le_one_of_le₀ ?_ (by positivity)⟩
  exact_mod_cast Nat.le_add_right part rest

/-- Every score is between zero and one. -/
structure Score.InRange (score : Score) : Prop where
  precision : 0 ≤ score.precision ∧ score.precision ≤ 1
  recalled : 0 ≤ score.recalled ∧ score.recalled ≤ 1
  f1 : 0 ≤ score.f1 ∧ score.f1 ≤ 1

theorem Score.inRange_ofCounts (truePositives falsePositives falseNegatives : ℕ) :
    (Score.ofCounts truePositives falsePositives falseNegatives).InRange := by
  refine ⟨part_div_range _ _, part_div_range _ _, ?_⟩
  rw [Score.ofCounts_f1]
  refine ⟨by positivity, div_le_one_of_le₀ ?_ (by positivity)⟩
  push_cast
  linarith [(Nat.cast_nonneg falseNegatives : (0 : ℚ) ≤ _), (Nat.cast_nonneg falsePositives : (0 : ℚ) ≤ _)]

/-- F1 is one where something was found, and nothing that was not there nor missed. -/
theorem Score.f1_eq_one_iff {truePositives falsePositives falseNegatives : ℕ} :
    (Score.ofCounts truePositives falsePositives falseNegatives).f1 = 1
      ↔ truePositives ≠ 0 ∧ falsePositives = 0 ∧ falseNegatives = 0 := by
  rw [Score.ofCounts_f1]
  rcases Nat.eq_zero_or_pos truePositives with rfl | hpositive
  · simp
  · have hsum : ((truePositives + falseNegatives : ℕ) : ℚ) + (truePositives + falsePositives : ℕ) ≠ 0 := by
      positivity
    rw [div_eq_one_iff_eq hsum]
    norm_cast
    omega

end ReviewSignal
