import Mathlib.Logic.Basic

/-!
# What a computation returns and what it raises

`Meets returns raises x`: the computation `x` returns a value of the one kind or raises an exception of
the other.  The rules are equivalences, so that they compute the exact condition under which a program
meets its postconditions.

Sequencing (`meets_bind`) puts the condition of the second computation in place of the postcondition of the
first, which makes a proof a calculation from the last statement to the first.  What is calculated holds of
the failures as well: a computation that may raise what `raises` excludes meets the pair only where it does
not raise it.

There is no rule of consequence.  One would lose the exactness, so postconditions are rewritten and never
weakened.
-/

namespace ReviewSignal

variable {ε ε' α β : Type}

/-- The value or the exception a computation ends with is as stated. -/
def Meets (returns : α → Prop) (raises : ε → Prop) : Except ε α → Prop
  | .ok value => returns value
  | .error exc => raises exc

variable {returns : α → Prop} {raises : ε → Prop}

@[simp] theorem meets_ok (value : α) : Meets returns raises (.ok value) ↔ returns value := Iff.rfl

@[simp] theorem meets_error (exc : ε) :
    Meets returns raises (.error exc : Except ε α) ↔ raises exc := Iff.rfl

@[simp] theorem meets_pure (value : α) :
    Meets returns raises (pure value : Except ε α) ↔ returns value := Iff.rfl

@[simp] theorem meets_bind (x : Except ε α) (f : α → Except ε β) {returns : β → Prop} :
    Meets returns raises (x >>= f) ↔ Meets (fun value => Meets returns raises (f value)) raises x := by
  cases x <;> rfl

theorem meets_ite (p : Prop) [Decidable p] (x y : Except ε α) :
    Meets returns raises (if p then x else y)
      ↔ (p → Meets returns raises x) ∧ (¬ p → Meets returns raises y) := by
  by_cases h : p <;> simp [h]

@[simp] theorem meets_map (x : Except ε α) (f : α → β) {returns : β → Prop} :
    Meets returns raises (f <$> x) ↔ Meets (fun value => returns (f value)) raises x := by
  cases x <;> rfl

@[simp] theorem meets_mapError (x : Except ε α) (f : ε → ε') {raises : ε' → Prop} :
    Meets returns raises (x.mapError f) ↔ Meets returns (fun exc => raises (f exc)) x := by
  cases x <;> rfl

/-- The exceptions alone. -/
theorem meets_true_iff {x : Except ε α} :
    Meets (fun _ => True) raises x ↔ ∀ exc, x = .error exc → raises exc := by
  cases x <;> simp

/-- What returns a value and raises nothing. -/
theorem meets_eq_iff {x : Except ε α} {value : α} :
    Meets (· = value) (fun _ => False) x ↔ x = .ok value := by
  cases x <;> simp

/-- A computation whose exceptions are never of the kind must return. -/
theorem meets_of_never {x : Except ε α} (h : ∀ exc, x = .error exc → ¬ raises exc) :
    Meets returns raises x ↔ ∃ value, x = .ok value ∧ returns value := by
  cases x with
  | error exc => simp [h exc rfl]
  | ok value => simp

/-- A loop whose body has an exact condition. -/
theorem meets_mapM {f : α → Except ε β} {ok : α → Prop} {g : α → β} {l : List α}
    (h : ∀ a ∈ l, ∀ returns : β → Prop, Meets returns raises (f a) ↔ ok a ∧ returns (g a))
    {returns : List β → Prop} :
    Meets returns raises (l.mapM f) ↔ (∀ a ∈ l, ok a) ∧ returns (l.map g) := by
  induction l generalizing returns with
  | nil => simp
  | cons a l ih =>
      have htail (returns : List β → Prop) :
          Meets returns raises (l.mapM f) ↔ (∀ b ∈ l, ok b) ∧ returns (l.map g) :=
        ih fun b hb => h b (List.mem_cons_of_mem _ hb)
      simp only [List.mapM_cons, meets_bind, h a List.mem_cons_self, htail, meets_pure,
        List.forall_mem_cons, List.map_cons, and_assoc]

/-! ## Loops that do not raise

Loops whose body returns on every element are pure loops. -/

theorem allM_ok {f : α → Except ε Bool} {p : α → Bool} {l : List α} (h : ∀ a ∈ l, f a = .ok (p a)) :
    l.allM f = .ok (l.all p) := by
  induction l with
  | nil => rfl
  | cons a l ih =>
      rw [List.forall_mem_cons] at h
      rw [List.allM, h.1, List.all_cons]
      cases p a with
      | false => rfl
      | true => exact ih h.2

theorem filterAuxM_ok {f : α → Except ε Bool} {p : α → Bool} {l : List α}
    (h : ∀ a ∈ l, f a = .ok (p a)) (kept : List α) :
    l.filterAuxM f kept = .ok ((l.filter p).reverse ++ kept) := by
  induction l generalizing kept with
  | nil => rfl
  | cons a l ih =>
      rw [List.forall_mem_cons] at h
      show (f a >>= fun b => l.filterAuxM f (cond b (a :: kept) kept)) = _
      rw [h.1]
      show l.filterAuxM f (cond (p a) (a :: kept) kept) = _
      rw [ih h.2, List.filter_cons]
      cases p a <;> simp

theorem filterM_ok {f : α → Except ε Bool} {p : α → Bool} {l : List α}
    (h : ∀ a ∈ l, f a = .ok (p a)) : l.filterM f = .ok (l.filter p) := by
  show (l.filterAuxM f [] >>= fun kept => pure kept.reverse) = _
  rw [filterAuxM_ok h]
  show (Except.ok ((l.filter p).reverse ++ []).reverse : Except ε (List α)) = _
  rw [List.append_nil, List.reverse_reverse]

end ReviewSignal
