import ReviewSignal.Foundations.Faulty

/-!
# When a program that may raise or die returns

`Returns x s Q`: from the state `s` the program returns, with a value and in a state that meet `Q`.
`Ensures` is about programs that may be stopped and says what holds if they are not; this one says that
they are not, so that each of its rules is an equivalence and a program's own condition can be computed:

* `returns_pass` — a place of the program is passed when nothing happens there;
* `returns_bind` — a sequence returns when its first program returns somewhere from where the second does;
* `returns_tryCatch` — a handler that never returns makes no difference.

There is no rule of consequence: the postcondition is rewritten, not weakened.
-/

namespace ReviewSignal

namespace Faulty

variable {ε σ α β : Type}

/-- The program returns, and its value and its state meet the postcondition. -/
def Returns (x : Faulty ε σ α) (s : σ) (Q : α → σ → Prop) : Prop :=
  ∃ a s', x s = (.returned a, s') ∧ Q a s'

variable {x : Faulty ε σ α} {f : α → Faulty ε σ β} {h : ε → Faulty ε σ α} {s : σ} {Q : α → σ → Prop}

/-- A program whose run is known to return. -/
theorem returns_iff_of_run {a : α} {s' : σ} (hx : x s = (.returned a, s')) :
    Returns x s Q ↔ Q a s' := by
  constructor
  · rintro ⟨b, t, hrun, hQ⟩
    cases hx.symm.trans hrun
    exact hQ
  · intro hQ
    exact ⟨a, s', hx, hQ⟩

/-- A program whose run is known to be stopped. -/
theorem not_returns_of_run {ended : Ended ε α} {s' : σ} (hx : x s = (ended, s'))
    (hended : ∀ a, ended ≠ .returned a) : ¬ Returns x s Q := by
  rintro ⟨a, t, hrun, -⟩
  cases hx.symm.trans hrun
  exact hended a rfl

theorem returns_true_iff : Returns x s (fun _ _ => True) ↔ ∃ a, (x s).1 = .returned a := by
  constructor
  · rintro ⟨a, s', hrun, -⟩
    exact ⟨a, by rw [hrun]⟩
  · rintro ⟨a, hended⟩
    exact ⟨a, (x s).2, Prod.ext hended rfl, trivial⟩

/-- Nothing returns with what cannot be. -/
@[simp] theorem returns_false : ¬ Returns x s (fun _ _ => False) := by
  rintro ⟨a, s', -, hQ⟩
  exact hQ

@[simp] theorem returns_pure {a : α} : Returns (pure a : Faulty ε σ α) s Q ↔ Q a s :=
  returns_iff_of_run rfl

@[simp] theorem returns_raise {e : ε} : ¬ Returns (raise e : Faulty ε σ α) s Q :=
  not_returns_of_run rfl (by simp)

@[simp] theorem returns_read {g : σ → α} : Returns (read g : Faulty ε σ α) s Q ↔ Q (g s) s :=
  returns_iff_of_run rfl

@[simp] theorem returns_modify {g : σ → σ} {Q : Unit → σ → Prop} :
    Returns (modify g : Faulty ε σ Unit) s Q ↔ Q () (g s) :=
  returns_iff_of_run rfl

/-- A place is passed when nothing happens there. -/
@[simp] theorem returns_pass {fate : Fate} {Q : Unit → σ → Prop} :
    Returns (pass fate : Faulty Exn σ Unit) s Q ↔ fate = .proceeds ∧ Q () s := by
  cases fate with
  | proceeds => simp
  | raises exc => simp
  | dies => simpa using not_returns_of_run (x := (die : Faulty Exn σ Unit)) (s := s) rfl (by simp)

/-- Sequencing. -/
@[simp] theorem returns_bind {Q : β → σ → Prop} :
    Returns (x >>= f) s Q ↔ Returns x s fun a s' => Returns (f a) s' Q := by
  rcases hx : x s with ⟨a | e | _, s'⟩
  · rw [returns_iff_of_run hx, Returns, bind_returned hx]
    rfl
  · exact iff_of_false (not_returns_of_run (bind_raised hx) (by simp))
      (not_returns_of_run hx (by simp))
  · exact iff_of_false (not_returns_of_run (bind_died hx) (by simp))
      (not_returns_of_run hx (by simp))

/-- A handler that never returns. -/
theorem returns_tryCatch (hh : ∀ e s', ¬ Returns (h e) s' Q) :
    Returns (tryCatch x h) s Q ↔ Returns x s Q := by
  rcases hx : x s with ⟨a | e | _, s'⟩
  · rw [returns_iff_of_run hx, returns_iff_of_run (tryCatch_returned hx)]
  · refine iff_of_false ?_ (not_returns_of_run hx (by simp))
    rintro ⟨a, t, hrun, hQ⟩
    exact hh e s' ⟨a, t, (tryCatch_raised hx).symm.trans hrun, hQ⟩
  · exact iff_of_false (not_returns_of_run (tryCatch_died hx) (by simp))
      (not_returns_of_run hx (by simp))

end Faulty

end ReviewSignal
