import Mathlib.Logic.Basic

/-!
# Runs of a system of events

A system is a partial step function: `step s e` is the state after the event, or `none` when the
event is not enabled.  `exec` runs a list of events, and `Along step c s es` says that a condition on
states and events holds at every step of a run.

* `exec_invariant` — a property every step keeps holds at the end of every run;
* `exec_invariant_along` — the same for runs all of whose steps meet a condition;
* `Along.of_invariant` — what an invariant says about a single step holds along those runs;
* `Along.iff_of_invariant` — under an invariant, two conditions that agree are met by the same runs;
* `exists_violation` — a run that does not meet the condition throughout splits at a step that
  violates it.

A run is a list of events and not of states, so that it can be written down, and that the events are enabled
is the hypothesis `exec step s events = some s'`.  Every reachable state is the end of such a run, and a
statement about all of them is one about the ends.
-/

namespace ReviewSignal

variable {σ ε : Type} (step : σ → ε → Option σ)

/-- Run the events one after the other. -/
def exec : σ → List ε → Option σ
  | s, [] => some s
  | s, e :: es => (step s e).bind fun s' => exec s' es

/-- The condition holds at every step of the run. -/
def Along (c : σ → ε → Prop) : σ → List ε → Prop
  | _, [] => True
  | s, e :: es => c s e ∧ ∀ s', step s e = some s' → Along c s' es

instance Along.decidable (c : σ → ε → Prop) [∀ s e, Decidable (c s e)] :
    ∀ s es, Decidable (Along step c s es)
  | _, [] => isTrue trivial
  | s, e :: es =>
      match h : step s e with
      | none => decidable_of_iff (c s e) (by simp [Along, h])
      | some s' =>
          have := Along.decidable c s' es
          decidable_of_iff (c s e ∧ Along step c s' es) (by simp [Along, h])

variable {step} {c : σ → ε → Prop} {p : σ → Prop} {s t : σ} {e : ε} {es fs : List ε}

theorem exec_cons_eq_some :
    exec step s (e :: es) = some t ↔ ∃ s', step s e = some s' ∧ exec step s' es = some t :=
  Option.bind_eq_some_iff

theorem exec_append (s : σ) (es fs : List ε) :
    exec step s (es ++ fs) = (exec step s es).bind fun s' => exec step s' fs := by
  induction es generalizing s with
  | nil => rfl
  | cons e es ih =>
      rw [List.cons_append, exec, exec]
      cases step s e with
      | none => rfl
      | some s' => exact ih s'

/-- **Invariants of conditioned runs.**  The induction is on the events of the run. -/
theorem exec_invariant_along (hstep : ∀ s e s', p s → c s e → step s e = some s' → p s')
    (hp : p s) (hc : Along step c s es) (h : exec step s es = some t) : p t := by
  induction es generalizing s with
  | nil =>
      cases h
      exact hp
  | cons e es ih =>
      obtain ⟨s', hs', hrest⟩ := exec_cons_eq_some.mp h
      exact ih (hstep s e s' hp hc.1 hs') (hc.2 s' hs') hrest

/-- **Invariants of runs.** -/
theorem exec_invariant (hstep : ∀ s e s', p s → step s e = some s' → p s') (hp : p s)
    (h : exec step s es = some t) : p t := by
  induction es generalizing s with
  | nil =>
      cases h
      exact hp
  | cons e es ih =>
      obtain ⟨s', hs', hrest⟩ := exec_cons_eq_some.mp h
      exact ih (hstep s e s' hp hs') hrest

/-- A property of every single step that follows from an invariant and a condition holds along every
run that meets the condition. -/
theorem Along.of_invariant {d : σ → ε → Prop}
    (hstep : ∀ s e s', p s → c s e → step s e = some s' → p s')
    (hprop : ∀ s e s', p s → c s e → step s e = some s' → d s e) (hp : p s)
    (hc : Along step c s es) (h : exec step s es = some t) : Along step d s es := by
  induction es generalizing s with
  | nil => exact True.intro
  | cons e es ih =>
      obtain ⟨s', hs', hrest⟩ := exec_cons_eq_some.mp h
      refine ⟨hprop s e s' hp hc.1 hs', fun s'' hs'' => ?_⟩
      obtain rfl : s' = s'' := Option.some.inj (hs'.symm.trans hs'')
      exact ih (hstep s e s' hp hc.1 hs') (hc.2 s' hs') hrest

/-- Two conditions that agree wherever an invariant holds are met by the same runs, when one of them
preserves the invariant. -/
theorem Along.iff_of_invariant {d : σ → ε → Prop} (hiff : ∀ s e, p s → (d s e ↔ c s e))
    (hstep : ∀ s e s', p s → c s e → step s e = some s' → p s') (hp : p s) :
    Along step d s es ↔ Along step c s es := by
  induction es generalizing s with
  | nil => exact .rfl
  | cons e es ih =>
      have hhead := hiff s e hp
      constructor
      · rintro ⟨hd, hrest⟩
        have hc := hhead.mp hd
        exact ⟨hc, fun s' hs' => (ih (hstep s e s' hp hc hs')).mp (hrest s' hs')⟩
      · rintro ⟨hc, hrest⟩
        exact ⟨hhead.mpr hc, fun s' hs' => (ih (hstep s e s' hp hc hs')).mpr (hrest s' hs')⟩

theorem Along.trivial (s : σ) (es : List ε) : Along step (fun _ _ => True) s es := by
  induction es generalizing s with
  | nil => exact True.intro
  | cons e es ih => exact ⟨True.intro, fun s' _ => ih s'⟩

/-- A condition on events alone adds to one on states and events. -/
theorem Along.and_events {q : ε → Prop} (hc : Along step c s es) (hq : ∀ e ∈ es, q e) :
    Along step (fun s e => q e ∧ c s e) s es := by
  induction es generalizing s with
  | nil => exact True.intro
  | cons e es ih =>
      refine ⟨⟨hq e List.mem_cons_self, hc.1⟩, fun s' hs' => ih (hc.2 s' hs') ?_⟩
      intro e' he'
      exact hq e' (List.mem_cons_of_mem _ he')

/-- **A run that leaves the condition does so at some step.** -/
theorem exists_violation (hc : ¬ Along step c s es) (h : exec step s es = some t) :
    ∃ before e after s₁ s₂, es = before ++ e :: after ∧ exec step s before = some s₁ ∧
      ¬ c s₁ e ∧ step s₁ e = some s₂ ∧ exec step s₂ after = some t := by
  induction es generalizing s with
  | nil => exact absurd trivial hc
  | cons e es ih =>
      obtain ⟨s', hs', hrest⟩ := exec_cons_eq_some.mp h
      by_cases hce : c s e
      · have hnot : ¬ Along step c s' es := by
          intro halong
          refine hc ⟨hce, fun s'' hs'' => ?_⟩
          rw [hs'] at hs''
          cases hs''
          exact halong
        obtain ⟨before, e', after, s₁, s₂, rfl, hbefore, hviolated, hstep, hafter⟩ := ih hnot hrest
        refine ⟨e :: before, e', after, s₁, s₂, rfl, ?_, hviolated, hstep, hafter⟩
        exact exec_cons_eq_some.mpr ⟨s', hs', hbefore⟩
      · exact ⟨[], e, es, s, s', rfl, rfl, hce, hs', hrest⟩

end ReviewSignal
