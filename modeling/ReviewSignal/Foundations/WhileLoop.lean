import Mathlib.Data.Finset.Card
import Mathlib.Logic.Function.Iterate

/-!
# `while` loops

A `WhileRun` is one whole run of `while test: body`, however long it is; there is at most one from
a state (`WhileRun.unique`).  A loop that does not end has none, so that there is one is a result of its own.

* `WhileRun.invariant` — what holds before the loop and is kept by its body holds after it, where the test
  fails as well;
* `WhileRun.exists_of_iterate` — a loop whose test would fail after `n` rounds has no more rounds;
* `WhileRun.exists_of_keys` — the measure of a loop is often not in its state: a loop that goes on for
  finitely many keys, and has another key in every round, comes to its end all the same, after at most one
  test more than there are keys.
-/

namespace ReviewSignal

variable {σ κ : Type} {test : σ → Prop} {body : σ → σ} {s s' : σ} {tested : List σ}

/-- A run from a state: the states the test is made in, and the one the loop is left with. -/
inductive WhileRun (test : σ → Prop) (body : σ → σ) : σ → List σ → σ → Prop
  | leave {s : σ} (h : ¬ test s) : WhileRun test body s [s] s
  | round {s s' : σ} {tested : List σ} (h : test s) (rest : WhileRun test body (body s) tested s') :
      WhileRun test body s (s :: tested) s'

namespace WhileRun

theorem unique {s'' : σ} {others : List σ} (h : WhileRun test body s tested s')
    (h' : WhileRun test body s others s'') : others = tested ∧ s'' = s' := by
  induction h generalizing others with
  | leave hleave =>
      cases h' with
      | leave => exact ⟨rfl, rfl⟩
      | round hround => exact absurd hround hleave
  | round hround _ ih =>
      cases h' with
      | leave hleave => exact absurd hround hleave
      | round _ rest =>
          obtain ⟨rfl, rfl⟩ := ih rest
          exact ⟨rfl, rfl⟩

theorem not_test (h : WhileRun test body s tested s') : ¬ test s' := by
  induction h with
  | leave h => exact h
  | round _ _ ih => exact ih

theorem tested_ne_nil (h : WhileRun test body s tested s') : tested ≠ [] := by
  cases h <;> exact List.cons_ne_nil _ _

/-- A loop whose test fails at once leaves its state as it is. -/
theorem eq_of_not_test (h : WhileRun test body s tested s') (hs : ¬ test s) : s' = s :=
  ((leave hs).unique h).2

/-- **The invariant rule.** -/
theorem invariant (inv : σ → Prop) (h : WhileRun test body s tested s')
    (hbody : ∀ s, inv s → test s → inv (body s)) (hs : inv s) : inv s' := by
  induction h with
  | leave => exact hs
  | round h _ ih => exact ih (hbody _ hs h)

/-- A loop whose test would fail after `n` rounds has no more rounds. -/
theorem exists_of_iterate {n : ℕ} (h : ¬ test (body^[n] s)) :
    ∃ tested s', WhileRun test body s tested s' ∧ tested.length ≤ n + 1 := by
  induction n generalizing s with
  | zero => exact ⟨[s], s, leave h, le_rfl⟩
  | succ n ih =>
      by_cases hs : test s
      · obtain ⟨tested, s', hrun, hlength⟩ := ih h
        exact ⟨s :: tested, s', round hs hrun, Nat.succ_le_succ hlength⟩
      · exact ⟨[s], s, leave hs, Nat.le_add_left 1 _⟩

/-- **A loop that goes on for finitely many keys, and never has one twice, ends.**  It tests at most
one state more than there are keys. -/
theorem exists_of_keys {keys : Finset κ} {key : σ → κ}
    (hkeys : ∀ n, test (body^[n] s) → key (body^[n] s) ∈ keys)
    (hdistinct : Function.Injective fun n => key (body^[n] s)) :
    ∃ tested s', WhileRun test body s tested s' ∧ tested.length ≤ keys.card + 1 := by
  classical
  have hfails : ∃ n ≤ keys.card, ¬ test (body^[n] s) := by
    by_contra! hgoes
    -- one key more than there are
    have hsubset : (Finset.range (keys.card + 1)).image (fun n => key (body^[n] s)) ⊆ keys := by
      intro k hk
      obtain ⟨n, hn, rfl⟩ := Finset.mem_image.mp hk
      exact hkeys n (hgoes n (Nat.lt_succ_iff.mp (Finset.mem_range.mp hn)))
    have hcard := Finset.card_le_card hsubset
    rw [Finset.card_image_of_injective _ hdistinct, Finset.card_range] at hcard
    omega
  obtain ⟨n, hn, htest⟩ := hfails
  obtain ⟨tested, s', hrun, hlength⟩ := exists_of_iterate htest
  exact ⟨tested, s', hrun, hlength.trans (Nat.succ_le_succ hn)⟩

end WhileRun

end ReviewSignal
