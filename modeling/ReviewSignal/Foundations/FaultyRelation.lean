import ReviewSignal.Foundations.Faulty

/-!
# Two runs of programs that may raise or die

`Agree R V x y`: from states that are related by `R`, the two programs end alike — both return, with
values related by `V`, or both raise the same error, or both die — and leave states related by `R`.

One rule for each construct of `Faulty`.  What a relation leaves out of the states cannot make a
difference to how programs that agree end, so an `R` that forgets a part of the state makes `Agree` a
statement of noninterference.

`Agree.bind` asks the second programs to agree on related values, which need not be equal; `Agree.attempt` and
`Agree.tryCatch` need the errors to be equal, as a handler may look at all of one.
-/

namespace ReviewSignal

/-- Two programs ended in the same way. -/
inductive EndedAlike {ε α β : Type} (V : α → β → Prop) : Ended ε α → Ended ε β → Prop where
  | returned {a : α} {b : β} (h : V a b) : EndedAlike V (.returned a) (.returned b)
  | raised (e : ε) : EndedAlike V (.raised e) (.raised e)
  | died : EndedAlike V .died .died

/-- Programs that return nothing end alike only if they end in the same way. -/
theorem EndedAlike.eq {ε : Type} {V : Unit → Unit → Prop} {ended ended' : Ended ε Unit}
    (h : EndedAlike V ended ended') : ended = ended' := by
  cases h <;> rfl

namespace Faulty

variable {ε σ τ α α' β β' : Type}

/-- From related states, the programs end alike in related states. -/
def Agree (R : σ → τ → Prop) (V : α → β → Prop) (x : Faulty ε σ α) (y : Faulty ε τ β) : Prop :=
  ∀ s t, R s t → EndedAlike V (x s).1 (y t).1 ∧ R (x s).2 (y t).2

variable {R : σ → τ → Prop} {V : α → β → Prop} {W : α' → β' → Prop} {x : Faulty ε σ α}
  {y : Faulty ε τ β} {f : α → Faulty ε σ α'} {g : β → Faulty ε τ β'}

theorem agree_pure {a : α} {b : β} (h : V a b) :
    Agree R V (pure a : Faulty ε σ α) (pure b : Faulty ε τ β) :=
  fun _ _ hst => ⟨.returned h, hst⟩

theorem agree_raise (e : ε) : Agree R V (raise e : Faulty ε σ α) (raise e : Faulty ε τ β) :=
  fun _ _ hst => ⟨.raised e, hst⟩

theorem agree_read {p : σ → α} {q : τ → β} (h : ∀ s t, R s t → V (p s) (q t)) :
    Agree R V (read p : Faulty ε σ α) (read q : Faulty ε τ β) :=
  fun s t hst => ⟨.returned (h s t hst), hst⟩

theorem agree_modify {p : σ → σ} {q : τ → τ} {U : Unit → Unit → Prop} (hU : U () ())
    (h : ∀ s t, R s t → R (p s) (q t)) :
    Agree R U (modify p : Faulty ε σ Unit) (modify q : Faulty ε τ Unit) :=
  fun s t hst => ⟨.returned hU, h s t hst⟩

/-- The same thing happens to both at a place of theirs. -/
theorem agree_pass (fate : Fate) :
    Agree R (· = ·) (pass fate : Faulty Exn σ Unit) (pass fate : Faulty Exn τ Unit) := by
  intro s t hst
  cases fate with
  | proceeds => exact ⟨.returned rfl, hst⟩
  | raises exc => exact ⟨.raised exc, hst⟩
  | dies => exact ⟨.died, hst⟩

/-- The ways two programs that agree can end. -/
theorem Agree.runs (hxy : Agree R V x y) {s : σ} {t : τ} (hst : R s t) : ∃ s' t', R s' t' ∧
    ((∃ a b, V a b ∧ x s = (.returned a, s') ∧ y t = (.returned b, t')) ∨
      (∃ e, x s = (.raised e, s') ∧ y t = (.raised e, t')) ∨
      x s = (.died, s') ∧ y t = (.died, t')) := by
  obtain ⟨hended, hstates⟩ := hxy s t hst
  rcases hx : x s with ⟨ended, s'⟩
  rcases hy : y t with ⟨ended', t'⟩
  rw [hx, hy] at hended hstates
  refine ⟨s', t', hstates, ?_⟩
  cases hended with
  | returned hV => exact .inl ⟨_, _, hV, rfl, rfl⟩
  | raised e => exact .inr (.inl ⟨e, rfl, rfl⟩)
  | died => exact .inr (.inr ⟨rfl, rfl⟩)

/-- Sequencing: the second programs agree on the values of the first. -/
theorem Agree.bind (hxy : Agree R V x y) (hfg : ∀ a b, V a b → Agree R W (f a) (g b)) :
    Agree R W (x >>= f) (y >>= g) := by
  intro s t hst
  obtain ⟨s', t', hstates, ⟨a, b, hV, hx, hy⟩ | ⟨e, hx, hy⟩ | ⟨hx, hy⟩⟩ := hxy.runs hst
  · rw [bind_returned hx, bind_returned hy]
    exact hfg a b hV s' t' hstates
  · rw [bind_raised hx, bind_raised hy]
    exact ⟨.raised e, hstates⟩
  · rw [bind_died hx, bind_died hy]
    exact ⟨.died, hstates⟩

/-- Errors that are the same are caught alike. -/
theorem Agree.tryCatch {h : ε → Faulty ε σ α} {k : ε → Faulty ε τ β} (hxy : Agree R V x y)
    (hhk : ∀ e, Agree R V (h e) (k e)) : Agree R V (tryCatch x h) (tryCatch y k) := by
  intro s t hst
  obtain ⟨s', t', hstates, ⟨a, b, hV, hx, hy⟩ | ⟨e, hx, hy⟩ | ⟨hx, hy⟩⟩ := hxy.runs hst
  · rw [tryCatch_returned hx, tryCatch_returned hy]
    exact ⟨.returned hV, hstates⟩
  · rw [tryCatch_raised hx, tryCatch_raised hy]
    exact hhk e s' t' hstates
  · rw [tryCatch_died hx, tryCatch_died hy]
    exact ⟨.died, hstates⟩

/-- What an attempt returns. -/
inductive SameResult (V : α → β → Prop) : Except ε α → Except ε β → Prop where
  | ok {a : α} {b : β} (h : V a b) : SameResult V (.ok a) (.ok b)
  | error (e : ε) : SameResult V (.error e) (.error e)

theorem Agree.attempt (hxy : Agree R V x y) : Agree R (SameResult V) (attempt x) (attempt y) := by
  intro s t hst
  obtain ⟨s', t', hstates, ⟨a, b, hV, hx, hy⟩ | ⟨e, hx, hy⟩ | ⟨hx, hy⟩⟩ := hxy.runs hst
  · rw [attempt_returned hx, attempt_returned hy]
    exact ⟨.returned (.ok hV), hstates⟩
  · rw [attempt_raised hx, attempt_raised hy]
    exact ⟨.returned (.error e), hstates⟩
  · rw [attempt_died hx, attempt_died hy]
    exact ⟨.died, hstates⟩

/-- Programs on a part of the states, related by themselves. -/
theorem Agree.zoom {σ' τ' : Type} {S : σ' → τ' → Prop} {p : σ' → σ} {set : σ → σ' → σ'}
    {q : τ' → τ} {set' : τ → τ' → τ'} (hxy : Agree R V x y) (hget : ∀ s t, S s t → R (p s) (q t))
    (hset : ∀ s t s' t', S s t → R s' t' → S (set s' s) (set' t' t)) :
    Agree S V (zoom p set x) (zoom q set' y) := by
  intro s t hst
  obtain ⟨hended, hstates⟩ := hxy (p s) (q t) (hget s t hst)
  exact ⟨hended, hset s t _ _ hst hstates⟩

end Faulty

end ReviewSignal
