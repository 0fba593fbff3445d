import ReviewSignal.Foundations.Transition
import Mathlib.Logic.Function.Basic

/-!
# Processes over a shared state

Any number of processes, each with a local state of its own, take turns at steps on a shared state.
`act i e shared l` is what the step `e` of the process `i` makes of the shared state and of its local
state, or `none` when the step is not enabled.

* `Pool.exec_holds_along` — a property of the shared state and one of every process, which each step
  keeps for the process that takes it and for the others, holds throughout a run;
* `Pool.exec_holds` — the same, where the others' properties are stable under what a step may do to
  the shared state.  It is the rely-guarantee rule: `R j` is what the process `j` tolerates of the others, and
  every step of another process has to be within it.

The processes are indexed by any type.  A run has finitely many steps, so finitely many of them move.
-/

namespace ReviewSignal

/-- A shared state, and the local state of every process. -/
structure Pool (ι σ τ : Type) where
  shared : σ
  proc : ι → τ

namespace Pool

variable {ι σ τ ε : Type} [DecidableEq ι] (act : ι → ε → σ → τ → Option (σ × τ))

/-- One process takes one step. -/
def step (s : Pool ι σ τ) (e : ι × ε) : Option (Pool ι σ τ) :=
  (act e.1 e.2 s.shared (s.proc e.1)).map fun next => ⟨next.1, Function.update s.proc e.1 next.2⟩

/-- A property of the shared state, and one of every process beside it. -/
structure Holds (G : σ → Prop) (A : ι → σ → τ → Prop) (s : Pool ι σ τ) : Prop where
  shared : G s.shared
  proc : ∀ i, A i s.shared (s.proc i)

variable {act} {G : σ → Prop} {A : ι → σ → τ → Prop} {s s' t : Pool ι σ τ} {i j : ι} {e : ε}
  {es : List (ι × ε)}

theorem step_eq_some : step act s (i, e) = some s' ↔
    ∃ shared l, act i e s.shared (s.proc i) = some (shared, l) ∧
      ⟨shared, Function.update s.proc i l⟩ = s' := by
  simp [step, Prod.exists]

/-- What the process that takes a step and the others keep, all keep. -/
theorem Holds.step {shared : σ} {l : τ} (hshared : G shared) (hself : A i shared l)
    (hothers : ∀ j, j ≠ i → A j shared (s.proc j)) :
    Holds G A ⟨shared, Function.update s.proc i l⟩ := by
  refine ⟨hshared, fun j => ?_⟩
  by_cases hj : j = i
  · subst hj
    simpa using hself
  · simpa [hj] using hothers j hj

/-- **Invariants of conditioned runs.** -/
theorem exec_holds_along {c : Pool ι σ τ → ι × ε → Prop}
    (hstep : ∀ (s : Pool ι σ τ) i e shared l, Holds G A s → c s (i, e) →
      act i e s.shared (s.proc i) = some (shared, l) →
      G shared ∧ A i shared l ∧ ∀ j, j ≠ i → A j shared (s.proc j))
    (hs : Holds G A s) (hc : Along (step act) c s es) (h : exec (step act) s es = some t) :
    Holds G A t := by
  refine exec_invariant_along ?_ hs hc h
  rintro s ⟨i, e⟩ s' hs hc h
  obtain ⟨shared, l, hact, rfl⟩ := step_eq_some.mp h
  obtain ⟨hshared, hself, hothers⟩ := hstep s i e shared l hs hc hact
  exact .step hshared hself hothers

/-- **Invariants of runs.**  `R j` is what the process `j` tolerates of the others. -/
theorem exec_holds (R : ι → σ → σ → Prop)
    (hstable : ∀ j shared shared' l, R j shared shared' → A j shared l → A j shared' l)
    (hstep : ∀ i e shared l shared' l', G shared → A i shared l →
      act i e shared l = some (shared', l') →
      G shared' ∧ A i shared' l' ∧ ∀ j, j ≠ i → R j shared shared')
    (hs : Holds G A s) (h : exec (step act) s es = some t) : Holds G A t := by
  refine exec_holds_along (c := fun _ _ => True) ?_ hs (.trivial s es) h
  intro s i e shared l hs _ hact
  obtain ⟨hshared, hself, hothers⟩ := hstep i e s.shared (s.proc i) shared l hs.shared (hs.proc i) hact
  exact ⟨hshared, hself, fun j hj => hstable j _ _ _ (hothers j hj) (hs.proc j)⟩

/-! ## A process on its own

The steps of one process, with nothing between them, are a run on the shared state and its own; this is what
connects a system to the sequential program it is made of. -/

/-- The steps of one process, on the shared state and its own. -/
def solo (act : ι → ε → σ → τ → Option (σ × τ)) (i : ι) (s : σ × τ) (e : ε) : Option (σ × τ) :=
  act i e s.1 s.2

/-- A process that nothing comes between leaves what its steps leave. -/
theorem exec_solo {steps : List ε} {shared : σ} {l : τ}
    (h : exec (solo act i) (s.shared, s.proc i) steps = some (shared, l)) :
    exec (step act) s (steps.map (Prod.mk i)) = some ⟨shared, Function.update s.proc i l⟩ := by
  induction steps generalizing s with
  | nil =>
      obtain ⟨rfl, rfl⟩ := Prod.mk.inj (Option.some.inj h)
      rw [Function.update_eq_self]
      rfl
  | cons e steps ih =>
      obtain ⟨⟨shared₁, l₁⟩, hact, hrest⟩ := exec_cons_eq_some.mp h
      have hstep : step act s (i, e) = some ⟨shared₁, Function.update s.proc i l₁⟩ :=
        step_eq_some.mpr ⟨shared₁, l₁, hact, rfl⟩
      have hrun := ih (s := ⟨shared₁, Function.update s.proc i l₁⟩) (by simpa using hrest)
      rw [List.map_cons, exec, hstep, Option.bind_some, hrun]
      simp

end Pool

end ReviewSignal
