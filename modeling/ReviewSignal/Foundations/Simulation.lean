import ReviewSignal.Foundations.Transition
import Mathlib.Data.List.Forall2
import Mathlib.Data.Option.Basic

/-!
# Two systems in lockstep

One system of events does what another does: related states enable the same events, and an event leaves
related states related.  Then the runs are the same, and end in related states (`exec_lockstep`).

A system that takes every event and replies to it is the other case (`Mealy`): related states reply the
same, and leave related ones (`Refines`).  Then whole runs reply the same (`replies_eq`) and end in related
states (`after_related`).

The relation may lose as much of a state as it likes.  What it loses can then make no difference to any
reply, which is what such a result is for: a system with more state than its replies show is understood by one
with less.
-/

namespace ReviewSignal

variable {σ τ ε : Type} {step : σ → ε → Option σ} {spec : τ → ε → Option τ} {r : σ → τ → Prop}

/-- The systems do the same from related states. -/
def Lockstep (step : σ → ε → Option σ) (spec : τ → ε → Option τ) (r : σ → τ → Prop) : Prop :=
  ∀ s t e, r s t → Option.Rel r (step s e) (spec t e)

/-- **Runs of systems in lockstep.**  The induction is on the events of the run. -/
theorem exec_lockstep (h : Lockstep step spec r) {s : σ} {t : τ} (hr : r s t) (es : List ε) :
    Option.Rel r (exec step s es) (exec spec t es) := by
  induction es generalizing s t with
  | nil => exact .some hr
  | cons e es ih =>
      have hstep := h s t e hr
      rw [exec, exec]
      cases hs : step s e with
      | none =>
          rw [hs] at hstep
          cases ht : spec t e with
          | none => exact .none
          | some t' =>
              rw [ht] at hstep
              cases hstep
      | some s' =>
          rw [hs] at hstep
          cases ht : spec t e with
          | none =>
              rw [ht] at hstep
              cases hstep
          | some t' =>
              rw [ht] at hstep
              cases hstep with
              | some hr' => exact ih hr'

/-- A run of the one is a run of the other. -/
theorem exists_of_exec_lockstep (h : Lockstep step spec r) {s s' : σ} {t : τ} (hr : r s t) {es : List ε}
    (hrun : exec step s es = some s') : ∃ t', exec spec t es = some t' ∧ r s' t' := by
  have hrel := exec_lockstep h hr es
  rw [hrun] at hrel
  cases ht : exec spec t es with
  | none =>
      rw [ht] at hrel
      cases hrel
  | some t' =>
      rw [ht] at hrel
      cases hrel with
      | some hr' => exact ⟨t', rfl, hr'⟩

/-! ## Messages under way

Two lists of related elements, as the messages of two systems in lockstep are. -/

variable {α β : Type} {q : α → β → Prop} {as : List α} {bs : List β}

theorem forall₂_getElem? (h : List.Forall₂ q as bs) (i : ℕ) : Option.Rel q as[i]? bs[i]? := by
  induction h generalizing i with
  | nil => exact .none
  | cons hhead htail ih =>
      cases i with
      | zero => exact .some hhead
      | succ i => exact ih i

theorem forall₂_eraseIdx (h : List.Forall₂ q as bs) (i : ℕ) :
    List.Forall₂ q (as.eraseIdx i) (bs.eraseIdx i) := by
  induction h generalizing i with
  | nil => exact .nil
  | cons hhead htail ih =>
      cases i with
      | zero => exact htail
      | succ i => exact .cons hhead (ih i)

/-! ## Systems that reply

A state and a reply for every event. -/

namespace Mealy

variable {ρ : Type} {serve : σ → ε → ρ × σ} {spec : τ → ε → ρ × τ} {s : σ} {t : τ}

/-- The state after some events. -/
def after (serve : σ → ε → ρ × σ) (s : σ) (es : List ε) : σ := es.foldl (fun s e => (serve s e).2) s

/-- The replies to them. -/
def replies (serve : σ → ε → ρ × σ) : σ → List ε → List ρ
  | _, [] => []
  | s, e :: es => (serve s e).1 :: replies serve (serve s e).2 es

/-- Related states give the same reply to an event, and it leaves them related. -/
def Refines (serve : σ → ε → ρ × σ) (spec : τ → ε → ρ × τ) (r : σ → τ → Prop) : Prop :=
  ∀ s t e, r s t → (serve s e).1 = (spec t e).1 ∧ r (serve s e).2 (spec t e).2

/-- **Runs keep related states related.** -/
theorem after_related (h : Refines serve spec r) (hr : r s t) (es : List ε) :
    r (after serve s es) (after spec t es) := by
  induction es generalizing s t with
  | nil => exact hr
  | cons e es ih => exact ih (h s t e hr).2

/-- **Runs from related states reply the same.**  The induction is on the events. -/
theorem replies_eq (h : Refines serve spec r) (hr : r s t) (es : List ε) :
    replies serve s es = replies spec t es := by
  induction es generalizing s t with
  | nil => rfl
  | cons e es ih =>
      obtain ⟨hreply, hnext⟩ := h s t e hr
      rw [replies, replies, hreply, ih hnext]

end Mealy

end ReviewSignal
