import Mathlib.Data.Finset.Card
import Mathlib.Data.List.Infix

/-!
# Following a partial function

`orbit next n a` are the values met in at most `n` steps of `next` from `a`, which is not one of them
itself.  Such a walk stops if and only if it never meets a value twice, and then within as many steps
as there are values.

* `nodup_of_stopped` — a walk that stops meets no value twice, since from the second time on it would take as
  many steps as from the first;
* `length_orbit_le` — a walk without repetition is no longer than the values there are;
* `nodup_of_stops` — where one walk stops, every walk from the same value is without repetition.

The values need not be finitely many, only those that are met.
-/

namespace ReviewSignal

variable {α : Type} {next : α → Option α}

/-- The values of the next `n` steps. -/
def orbit (next : α → Option α) : ℕ → α → List α
  | 0, _ => []
  | n + 1, a =>
      match next a with
      | none => []
      | some b => b :: orbit next n b

theorem orbit_of_none {a : α} (h : next a = none) (n : ℕ) : orbit next n a = [] := by
  cases n with
  | zero => rfl
  | succ n => rw [orbit, h]

theorem orbit_of_some {a b : α} (h : next a = some b) (n : ℕ) :
    orbit next (n + 1) a = b :: orbit next n b := by
  rw [orbit, h]

theorem mem_orbit {n : ℕ} {a b : α} (h : b ∈ orbit next n a) : ∃ c, next c = some b := by
  induction n generalizing a with
  | zero => cases h
  | succ n ih =>
      cases hnext : next a with
      | none =>
          rw [orbit_of_none hnext] at h
          cases h
      | some c =>
          rw [orbit_of_some hnext] at h
          rcases List.mem_cons.mp h with rfl | htail
          · exact ⟨a, hnext⟩
          · exact ih htail

/-- More steps go on from where fewer ended. -/
theorem orbit_isPrefix {n m : ℕ} (h : n ≤ m) (a : α) : orbit next n a <+: orbit next m a := by
  induction n generalizing m a with
  | zero => exact List.nil_prefix
  | succ n ih =>
      obtain ⟨m, rfl⟩ := Nat.exists_eq_succ_of_ne_zero (Nat.ne_of_gt (Nat.lt_of_lt_of_le n.succ_pos h))
      cases hnext : next a with
      | none => simp [orbit_of_none hnext]
      | some b =>
          rw [orbit_of_some hnext, orbit_of_some hnext]
          exact (List.prefix_cons_inj b).mpr (ih (Nat.le_of_succ_le_succ h) b)

/-- A walk that stopped is the whole walk. -/
theorem orbit_of_stopped {n m : ℕ} {a : α} (hstop : (orbit next n a).length < n) (h : n ≤ m) :
    orbit next m a = orbit next n a := by
  induction n generalizing m a with
  | zero => cases hstop
  | succ n ih =>
      obtain ⟨m, rfl⟩ := Nat.exists_eq_succ_of_ne_zero (Nat.ne_of_gt (Nat.lt_of_lt_of_le n.succ_pos h))
      cases hnext : next a with
      | none => rw [orbit_of_none hnext, orbit_of_none hnext]
      | some b =>
          rw [orbit_of_some hnext, List.length_cons] at hstop
          rw [orbit_of_some hnext, orbit_of_some hnext,
            ih (Nat.lt_of_succ_lt_succ hstop) (Nat.le_of_succ_le_succ h)]

/-- What follows a value on the walk is the walk from it. -/
theorem orbit_of_append {n : ℕ} {a b : α} {before after : List α}
    (h : orbit next n a = before ++ b :: after) :
    ∃ m, before.length + 1 + m = n ∧ after = orbit next m b := by
  induction n generalizing a before with
  | zero => simp [orbit] at h
  | succ n ih =>
      cases hnext : next a with
      | none =>
          rw [orbit_of_none hnext] at h
          simp at h
      | some c =>
          rw [orbit_of_some hnext] at h
          cases before with
          | nil =>
              obtain ⟨rfl, rfl⟩ := List.cons_eq_cons.mp h
              exact ⟨n, by simp [Nat.add_comm], rfl⟩
          | cons head before =>
              obtain ⟨-, htail⟩ := List.cons_eq_cons.mp h
              obtain ⟨m, hm, hafter⟩ := ih htail
              exact ⟨m, by rw [List.length_cons]; omega, hafter⟩

/-- **A walk that stops meets no value twice**: from the second time on it would take as many steps
as from the first. -/
theorem nodup_of_stopped {n : ℕ} {a : α} (hstop : (orbit next n a).length < n) :
    (orbit next n a).Nodup := by
  induction n generalizing a with
  | zero => cases hstop
  | succ n ih =>
      cases hnext : next a with
      | none => simp [orbit_of_none hnext]
      | some b =>
          rw [orbit_of_some hnext, List.length_cons] at hstop
          rw [orbit_of_some hnext, List.nodup_cons]
          have hrest : (orbit next n b).length < n := Nat.lt_of_succ_lt_succ hstop
          refine ⟨fun hagain => ?_, ih hrest⟩
          obtain ⟨before, after, hsplit⟩ := List.append_of_mem hagain
          obtain ⟨m, hm, hafter⟩ := orbit_of_append hsplit
          have hlength : (orbit next n b).length = before.length + 1 + after.length := by
            rw [hsplit]
            simp
            omega
          have hstopped : (orbit next m b).length < m := by
            rw [← hafter]
            omega
          have hsame := orbit_of_stopped hstopped (by omega : m ≤ n)
          rw [hsame, hafter] at hlength
          omega

/-- A walk without repetition is no longer than the values there are. -/
theorem length_orbit_le {values : Finset α} (hvalues : ∀ a b, next a = some b → b ∈ values) {n : ℕ}
    {a : α} (hnodup : (orbit next n a).Nodup) : (orbit next n a).length ≤ values.card := by
  classical
  rw [← List.toFinset_card_of_nodup hnodup]
  refine Finset.card_le_card fun b hb => ?_
  obtain ⟨c, hc⟩ := mem_orbit (List.mem_toFinset.mp hb)
  exact hvalues c b hc

/-- Where one walk stops, every walk is without repetition. -/
theorem nodup_of_stops {n : ℕ} {a : α} (hstop : (orbit next n a).length < n) (m : ℕ) :
    (orbit next m a).Nodup := by
  rcases Nat.le_total n m with h | h
  · rw [orbit_of_stopped hstop h]
    exact nodup_of_stopped hstop
  · exact (nodup_of_stopped hstop).sublist (orbit_isPrefix h a).sublist

end ReviewSignal
