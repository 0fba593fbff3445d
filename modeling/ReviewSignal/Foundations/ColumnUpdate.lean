import Mathlib.Tactic.SplitIfs

/-!
# Column-wise updates

A unit of work loads a row, assigns to some of its columns, and at the flush sends an UPDATE that
sets the columns whose value is no longer the loaded one.  By then the stored row may be another.

`differing` is the value such an UPDATE sets one column to, if it sets it, and `written` what the
column holds afterwards.

Two cases are all there is to it.  Undisturbed, the column holds what was assigned to it (`written_loaded`),
so nobody notices that it may not have been sent.  Met by another value, it holds what was assigned if that
differs from what was loaded, and the other value if not (`written_of_ne`, `written_same`), which is how a row
comes to hold columns of two writers.
-/

namespace ReviewSignal

variable {α : Type} [DecidableEq α]

/-- The value to set, if it differs from the loaded one. -/
def differing (loaded new : α) : Option α :=
  if loaded = new then none else some new

/-- The column after the UPDATE, from what it holds before. -/
def written (loaded new stored : α) : α := (differing loaded new).getD stored

@[simp] theorem getD_differing (loaded new : α) : (differing loaded new).getD loaded = new := by
  rw [differing]
  split_ifs with h
  · exact h
  · rfl

theorem getD_differing_or (loaded new old : α) :
    (differing loaded new).getD old = new ∨ (differing loaded new).getD old = old := by
  rw [differing]
  split_ifs
  · exact .inr rfl
  · exact .inl rfl

/-- Undisturbed, the column holds what was assigned to it. -/
@[simp] theorem written_loaded (loaded new : α) : written loaded new loaded = new :=
  getD_differing loaded new

/-- A column nothing was assigned to is left alone. -/
@[simp] theorem written_same (loaded stored : α) : written loaded loaded stored = stored := by
  simp [written, differing]

theorem written_of_ne {loaded new : α} (h : loaded ≠ new) (stored : α) :
    written loaded new stored = new := by
  simp [written, differing, h]

theorem written_or (loaded new stored : α) :
    written loaded new stored = new ∨ written loaded new stored = stored :=
  getD_differing_or loaded new stored

end ReviewSignal
