import ReviewSignal.Foundations.Transition
import Mathlib.Data.List.Induction

/-!
# Where something comes from

What a system has that it did not start with, some event of the run brought: `exec_provenance` finds the
event and the state it happened in.

It is the counterpart of an invariant.  That every state of a run has a property is proved forward, from one
state to the next; that something a state has was brought is proved backward, from the end of the run to the
last step before which it was not there.
-/

namespace ReviewSignal

variable {σ ε π : Type} {step : σ → ε → Option σ} {s₀ s : σ} {es : List ε} {x : π}

/-- **Whatever is had at the end was brought by an event of the run.**  The induction is on the run from its
end. -/
theorem exec_provenance {had : σ → π → Prop} {brings : σ → ε → π → Prop} (hstart : ∀ x, ¬ had s₀ x)
    (hstep : ∀ s e s' x, step s e = some s' → had s' x → had s x ∨ brings s e x)
    (hrun : exec step s₀ es = some s) (hx : had s x) :
    ∃ before e after s₁, es = before ++ e :: after ∧ exec step s₀ before = some s₁ ∧ brings s₁ e x := by
  induction es using List.reverseRecOn generalizing s with
  | nil =>
      cases hrun
      exact absurd hx (hstart x)
  | append_singleton es e ih =>
      rw [exec_append, Option.bind_eq_some_iff] at hrun
      obtain ⟨s₁, hbefore, hlast⟩ := hrun
      obtain ⟨s', hstep', hend⟩ := exec_cons_eq_some.mp hlast
      cases hend
      rcases hstep _ _ _ _ hstep' hx with hold | hnew
      · obtain ⟨before, e', after, s₂, rfl, hrest⟩ := ih hbefore hold
        exact ⟨before, e', after ++ [e], s₂, by simp, hrest⟩
      · exact ⟨es, e, [], s₁, rfl, hbefore, hnew⟩

end ReviewSignal
