import Mathlib.Logic.Basic

/-!
# Programs that may raise, in a process that may die

`Faulty ε σ α` is a program over a mutable state `σ`.  It ends in one of three ways (`Ended`): it
returns an `α`, it raises an `ε`, or its process dies.  What it did to the state before it ended
stays in every case; what survives a death is for the instantiation to say.

* `pass fate` is a place of the program where something may happen, and `fate` says what does.  A program
  marks its places, and an environment is a function of them.
* `tryCatch` catches an error and nothing else: no handler runs in a dead process.
* `zoom` runs a program on a part of the state, for a component that has tables of its own.

Three logics are built on it, each with a rule for every construct: `FaultyTriple` for what holds however a
program ends, `FaultyReturns` for when it returns at all, and `FaultyRelation` for two runs side by side.
-/

namespace ReviewSignal

/-- An exception as a log line or an `error_message` column shows it. -/
structure Exn where
  typeName : String
  message : String
  deriving DecidableEq, Repr

/-- `f"{type(exc).__name__}: {exc}"` -/
def Exn.describe (exc : Exn) : String := exc.typeName ++ ": " ++ exc.message

/-- How a program ended. -/
inductive Ended (ε α : Type) where
  | returned (value : α)
  | raised (error : ε)
  | died
  deriving DecidableEq, Repr

/-- What the environment does at a place of a program where it can fail. -/
inductive Fate where
  | proceeds
  | raises (exc : Exn)
  | dies
  deriving DecidableEq, Repr

/-- A program over the state `σ` which returns an `α`, raises an `ε`, or dies with its process. -/
def Faulty (ε σ α : Type) := σ → Ended ε α × σ

namespace Faulty

variable {ε σ α β : Type}

/-- Sequencing: the second program runs only when the first one returned. -/
def andThen (x : Faulty ε σ α) (f : α → Faulty ε σ β) : Faulty ε σ β := fun s =>
  match x s with
  | (.returned a, s') => f a s'
  | (.raised e, s') => (.raised e, s')
  | (.died, s') => (.died, s')

instance : Monad (Faulty ε σ) where
  pure a := fun s => (.returned a, s)
  bind := andThen

instance : LawfulMonad (Faulty ε σ) := LawfulMonad.mk' _
  (fun x => funext fun s => by
    show andThen x (fun a s => (.returned a, s)) s = x s
    simp only [andThen]
    rcases x s with ⟨_ | _ | _, s'⟩ <;> rfl)
  (fun _ _ => rfl)
  (fun x f g => funext fun s => by
    show andThen (andThen x f) g s = andThen x (fun a => andThen (f a) g) s
    simp only [andThen]
    rcases x s with ⟨_ | _ | _, s'⟩ <;> rfl)

def raise (e : ε) : Faulty ε σ α := fun s => (.raised e, s)

def die : Faulty ε σ α := fun s => (.died, s)

/-- `try: x  except e: h e` -/
def tryCatch (x : Faulty ε σ α) (h : ε → Faulty ε σ α) : Faulty ε σ α := fun s =>
  match x s with
  | (.raised e, s') => h e s'
  | other => other

/-- `try: x  except e: ...  else: ...`, with the continuation still to choose. -/
def attempt (x : Faulty ε σ α) : Faulty ε σ (Except ε α) := fun s =>
  match x s with
  | (.returned a, s') => (.returned (.ok a), s')
  | (.raised e, s') => (.returned (.error e), s')
  | (.died, s') => (.died, s')

def modify (f : σ → σ) : Faulty ε σ Unit := fun s => (.returned (), f s)

def read (f : σ → α) : Faulty ε σ α := fun s => (.returned (f s), s)

/-- Pass a place of the program. -/
def pass : Fate → Faulty Exn σ Unit
  | .proceeds => pure ()
  | .raises exc => raise exc
  | .dies => die

/-- A program on a part of the state. -/
def zoom {τ : Type} (get : σ → τ) (set : τ → σ → σ) (x : Faulty ε τ α) : Faulty ε σ α := fun s =>
  let (ended, t) := x (get s)
  (ended, set t s)

/-! ## Running

What each construct does, by the way its first part ends. -/

@[simp] theorem pure_run (a : α) (s : σ) : (pure a : Faulty ε σ α) s = (.returned a, s) := rfl

@[simp] theorem raise_run (e : ε) (s : σ) : (raise e : Faulty ε σ α) s = (.raised e, s) := rfl

@[simp] theorem die_run (s : σ) : (die : Faulty ε σ α) s = (.died, s) := rfl

@[simp] theorem modify_run (f : σ → σ) (s : σ) :
    (modify f : Faulty ε σ Unit) s = (.returned (), f s) := rfl

@[simp] theorem read_run (f : σ → α) (s : σ) :
    (read f : Faulty ε σ α) s = (.returned (f s), s) := rfl

/-- A bind whose first program returned is its continuation. -/
theorem bind_returned {x : Faulty ε σ α} {f : α → Faulty ε σ β} {s s' : σ} {a : α}
    (h : x s = (.returned a, s')) : (x >>= f) s = f a s' := by
  show andThen x f s = _
  simp only [andThen, h]

/-- A bind whose first program raised never reaches its continuation. -/
theorem bind_raised {x : Faulty ε σ α} {f : α → Faulty ε σ β} {s s' : σ} {e : ε}
    (h : x s = (.raised e, s')) : (x >>= f) s = (.raised e, s') := by
  show andThen x f s = _
  simp only [andThen, h]

/-- Nor does one whose process died. -/
theorem bind_died {x : Faulty ε σ α} {f : α → Faulty ε σ β} {s s' : σ}
    (h : x s = (.died, s')) : (x >>= f) s = (.died, s') := by
  show andThen x f s = _
  simp only [andThen, h]

/-- Programs that run alike from a state go on alike. -/
theorem bind_congr_run {x y : Faulty ε σ α} {s : σ} (h : x s = y s) (f : α → Faulty ε σ β) :
    (x >>= f) s = (y >>= f) s := by
  show andThen x f s = andThen y f s
  simp only [andThen, h]

@[simp] theorem pure_bind_run (a : α) (f : α → Faulty ε σ β) (s : σ) :
    ((pure a : Faulty ε σ α) >>= f) s = f a s := rfl

@[simp] theorem raise_bind_run (e : ε) (f : α → Faulty ε σ β) (s : σ) :
    ((raise e : Faulty ε σ α) >>= f) s = (.raised e, s) := rfl

@[simp] theorem die_bind_run (f : α → Faulty ε σ β) (s : σ) :
    ((die : Faulty ε σ α) >>= f) s = (.died, s) := rfl

@[simp] theorem modify_bind_run (g : σ → σ) (f : Unit → Faulty ε σ β) (s : σ) :
    ((modify g : Faulty ε σ Unit) >>= f) s = f () (g s) := rfl

@[simp] theorem read_bind_run (g : σ → α) (f : α → Faulty ε σ β) (s : σ) :
    ((read g : Faulty ε σ α) >>= f) s = f (g s) s := rfl

@[simp] theorem pass_proceeds : (pass .proceeds : Faulty Exn σ Unit) = pure () := rfl

@[simp] theorem pass_raises (exc : Exn) : (pass (.raises exc) : Faulty Exn σ Unit) = raise exc := rfl

@[simp] theorem pass_dies : (pass .dies : Faulty Exn σ Unit) = die := rfl

/-- A place where the program stops: nothing after it is run. -/
theorem exists_pass_bind {fate : Fate} (h : fate ≠ .proceeds) (f : Unit → Faulty Exn σ β) (s : σ) :
    ∃ ended, (∀ b, ended ≠ .returned b) ∧ (pass fate >>= f) s = (ended, s) := by
  cases fate with
  | proceeds => exact absurd rfl h
  | raises exc => exact ⟨.raised exc, nofun, rfl⟩
  | dies => exact ⟨.died, nofun, rfl⟩

/-- A bind whose first program did not return stops with it. -/
theorem bind_stopped {x : Faulty ε σ α} {s s' : σ} {ended : Ended ε α} (h : x s = (ended, s'))
    (hended : ∀ a, ended ≠ .returned a) (f : α → Faulty ε σ β) :
    ∃ ended', (∀ b, ended' ≠ .returned b) ∧ (x >>= f) s = (ended', s') := by
  cases ended with
  | returned a => exact absurd rfl (hended a)
  | raised e => exact ⟨.raised e, nofun, bind_raised h⟩
  | died => exact ⟨.died, nofun, bind_died h⟩

theorem attempt_returned {x : Faulty ε σ α} {s s' : σ} {a : α} (h : x s = (.returned a, s')) :
    attempt x s = (.returned (.ok a), s') := by
  simp only [attempt, h]

theorem attempt_raised {x : Faulty ε σ α} {s s' : σ} {e : ε} (h : x s = (.raised e, s')) :
    attempt x s = (.returned (.error e), s') := by
  simp only [attempt, h]

theorem attempt_died {x : Faulty ε σ α} {s s' : σ} (h : x s = (.died, s')) :
    attempt x s = (.died, s') := by
  simp only [attempt, h]

theorem zoom_run {τ : Type} {get : σ → τ} {set : τ → σ → σ} {x : Faulty ε τ α} {s : σ} {t : τ}
    {ended : Ended ε α} (h : x (get s) = (ended, t)) : zoom get set x s = (ended, set t s) := by
  simp only [zoom, h]

theorem tryCatch_returned {x : Faulty ε σ α} {h : ε → Faulty ε σ α} {s s' : σ} {a : α}
    (hx : x s = (.returned a, s')) : tryCatch x h s = (.returned a, s') := by
  simp only [tryCatch, hx]

theorem tryCatch_raised {x : Faulty ε σ α} {h : ε → Faulty ε σ α} {s s' : σ} {e : ε}
    (hx : x s = (.raised e, s')) : tryCatch x h s = h e s' := by
  simp only [tryCatch, hx]

theorem tryCatch_died {x : Faulty ε σ α} {h : ε → Faulty ε σ α} {s s' : σ}
    (hx : x s = (.died, s')) : tryCatch x h s = (.died, s') := by
  simp only [tryCatch, hx]

end Faulty

end ReviewSignal
