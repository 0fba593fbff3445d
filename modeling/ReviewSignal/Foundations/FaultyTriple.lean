import ReviewSignal.Foundations.Faulty

/-!
# Pre- and postconditions of programs that may raise or die

`Ensures x P Q E`: from a state that meets `P`, the program returns in a state that meets `Q` of its
value, or is stopped in a state that meets `E`.  A program that is stopped keeps what it did, so `E`
is what an interruption at any of its places leaves.

One rule for each construct of `Faulty`; `Ensures.mono` is the rule of consequence.  The rules for a step
before the rest of a program (`ensures_pass_bind` and the like) are those a proof goes through, from the first
statement to the last.

A caught error goes on from where it was raised (`Ensures.tryCatch`): the precondition of the handler is the
`E` of the body.  Nothing is said about whether a program is stopped; `FaultyReturns` is the logic for that.
-/

namespace ReviewSignal

namespace Faulty

variable {ε σ α β : Type}

/-- Every way the program ends meets its postcondition. -/
def Ensures (x : Faulty ε σ α) (P : σ → Prop) (Q : α → σ → Prop) (E : σ → Prop) : Prop :=
  ∀ s, P s → match x s with
    | (.returned a, s') => Q a s'
    | (.raised _, s') => E s'
    | (.died, s') => E s'

variable {x : Faulty ε σ α} {f : α → Faulty ε σ β} {P P' : σ → Prop} {Q Q' : α → σ → Prop}
  {R : β → σ → Prop} {E E' : σ → Prop}

theorem Ensures.returned (h : Ensures x P Q E) {s s' : σ} {a : α} (hs : P s)
    (hx : x s = (.returned a, s')) : Q a s' := by
  have hend := h s hs
  rwa [hx] at hend

theorem Ensures.stopped (h : Ensures x P Q E) {s s' : σ} {ended : Ended ε α} (hs : P s)
    (hx : x s = (ended, s')) (hended : ∀ a, ended ≠ .returned a) : E s' := by
  have hend := h s hs
  rw [hx] at hend
  cases ended with
  | returned a => exact absurd rfl (hended a)
  | raised e => exact hend
  | died => exact hend

/-- The rule of consequence. -/
theorem Ensures.mono (h : Ensures x P Q E) (hP : ∀ s, P' s → P s) (hQ : ∀ a s, Q a s → Q' a s)
    (hE : ∀ s, E s → E' s) : Ensures x P' Q' E' := by
  intro s hs
  have hend := h s (hP s hs)
  rcases hx : x s with ⟨a | e | _, s'⟩
  · rw [hx] at hend
    exact hQ a s' hend
  · rw [hx] at hend
    exact hE s' hend
  · rw [hx] at hend
    exact hE s' hend

theorem ensures_pure (a : α) (h : ∀ s, P s → Q a s) : Ensures (pure a : Faulty ε σ α) P Q E :=
  fun s hs => h s hs

theorem ensures_raise (e : ε) (h : ∀ s, P s → E s) : Ensures (raise e : Faulty ε σ α) P Q E :=
  fun s hs => h s hs

theorem ensures_read {g : σ → α} (h : ∀ s, P s → Q (g s) s) :
    Ensures (read g : Faulty ε σ α) P Q E :=
  fun s hs => h s hs

/-- A place the program may be stopped at. -/
theorem ensures_pass (fate : Fate) {Q : Unit → σ → Prop} (hQ : ∀ s, P s → Q () s)
    (hE : ∀ s, P s → E s) : Ensures (pass fate : Faulty Exn σ Unit) P Q E := by
  intro s hs
  cases fate with
  | proceeds => exact hQ s hs
  | raises exc => exact hE s hs
  | dies => exact hE s hs

/-- Sequencing: the postcondition of the first program is the precondition of the second. -/
theorem Ensures.bind (hx : Ensures x P Q E) (hf : ∀ a, Ensures (f a) (Q a) R E) :
    Ensures (x >>= f) P R E := by
  intro s hs
  rcases h : x s with ⟨a | e | _, s'⟩
  · rw [bind_returned h]
    exact hf a s' (hx.returned hs h)
  · rw [bind_raised h]
    exact hx.stopped hs h nofun
  · rw [bind_died h]
    exact hx.stopped hs h nofun

/-- A step, and then the rest of the program. -/
theorem ensures_modify_bind {g : σ → σ} {f : Unit → Faulty ε σ β} (P' : σ → Prop)
    (hg : ∀ s, P s → P' (g s)) (hf : Ensures (f ()) P' R E) : Ensures (modify g >>= f) P R E :=
  fun s hs => hf (g s) (hg s hs)

/-- What was read is true of the state the rest starts from. -/
theorem ensures_read_bind {g : σ → α} (hf : ∀ a, Ensures (f a) (fun s => P s ∧ g s = a) R E) :
    Ensures (read g >>= f) P R E :=
  fun s hs => hf (g s) s ⟨hs, rfl⟩

/-- A place of the program, and then the rest of it. -/
theorem ensures_pass_bind (fate : Fate) {y : Faulty Exn σ β} (hE : ∀ s, P s → E s)
    (hy : Ensures y P R E) : Ensures (pass fate >>= fun _ => y) P R E :=
  (ensures_pass fate (fun _ h => h) hE).bind fun _ => hy

/-- A caught error goes on from the state of the interruption. -/
theorem Ensures.tryCatch {handler : ε → Faulty ε σ α} (hx : Ensures x P Q E')
    (hhandler : ∀ e, Ensures (handler e) E' Q E) (hdied : ∀ s, E' s → E s) :
    Ensures (tryCatch x handler) P Q E := by
  intro s hs
  rcases h : x s with ⟨a | e | _, s'⟩
  · rw [tryCatch_returned h]
    exact hx.returned hs h
  · rw [tryCatch_raised h]
    exact hhandler e s' (hx.stopped hs h nofun)
  · rw [tryCatch_died h]
    exact hdied s' (hx.stopped hs h nofun)

end Faulty

end ReviewSignal
