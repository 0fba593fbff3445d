import ReviewSignal.Foundations.Builtins
import Mathlib.Algebra.Order.Ring.Int

/-!
# Dates with and without an offset

A `datetime` shows a wall clock, and may say how far that clock is ahead of UTC.  One that does not is
naive: it is a moment only in a time zone, and Python does not compare it with one that does.

* `after` raises a `TypeError` for two dates of which one is naive (`after_of_mixed`), and compares the
  moments of others (`after_of_not_mixed`).  Two naive dates are compared by their clocks.
* `sub` takes a duration off the clock and raises an `OverflowError` where that leaves the years there are.

In microseconds throughout; a time zone is its offset.  Zones whose offset changes are left out.
-/

namespace ReviewSignal

/-- A `datetime`. -/
structure DateTime where
  wall : ℤ
  offset : Option ℤ
  wall_isDate : Python.isDate wall = true
  offset_lt : ∀ o ∈ offset, o.natAbs < 86400000000
  deriving DecidableEq

/-- A reading of the system's clock, which tells a time since the epoch. -/
structure CurrentTime where
  instant : ℤ
  since_epoch : 0 ≤ instant
  isDate : Python.isDate instant = true
  deriving DecidableEq

namespace DateTime

theorem utc_lt : ∀ o ∈ some (0 : ℤ), o.natAbs < 86400000000 := by simp

theorem isDate_epoch : Python.isDate 0 = true := by decide

/-- `datetime.now(UTC)` -/
def now (time : CurrentTime) : DateTime := ⟨time.instant, some 0, time.isDate, utc_lt⟩

/-- The moment the date is, its clock read in the zone when it is naive. -/
def instant (zone : ℤ) (date : DateTime) : ℤ := date.wall - date.offset.getD zone

/-- One of the dates has an offset and the other has none. -/
def Mixed (a b : DateTime) : Prop := a.offset.isSome ≠ b.offset.isSome

instance (a b : DateTime) : Decidable (Mixed a b) := inferInstanceAs (Decidable (_ ≠ _))

/-- `a > b` -/
def after (a b : DateTime) : Except Exn Bool :=
  match a.offset, b.offset with
  | none, none => .ok (b.wall < a.wall)
  | some offset, some offset' => .ok (b.wall - offset' < a.wall - offset)
  | _, _ => .error ⟨"TypeError", "can't compare offset-naive and offset-aware datetimes"⟩

/-- `date - duration` -/
def sub (date : DateTime) (duration : ℤ) : Except Exn DateTime :=
  if h : Python.isDate (date.wall - duration) = true then
    .ok { date with wall := date.wall - duration, wall_isDate := h }
  else .error ⟨"OverflowError", "date value out of range"⟩

variable {zone duration : ℤ} {a b date : DateTime}

/-- Comparable dates compare as the moments they are. -/
theorem after_of_not_mixed (h : ¬ Mixed a b) (zone : ℤ) :
    after a b = .ok (b.instant zone < a.instant zone) := by
  rw [Mixed, not_not] at h
  rw [after, instant, instant]
  cases ha : a.offset <;> cases hb : b.offset <;> simp_all

theorem after_of_mixed (h : Mixed a b) :
    after a b = .error ⟨"TypeError", "can't compare offset-naive and offset-aware datetimes"⟩ := by
  rw [Mixed] at h
  rw [after]
  cases ha : a.offset <;> cases hb : b.offset <;> simp_all

/-- Where it stays a date, what a duration takes away shows on the clock. -/
theorem sub_of_isDate (h : Python.isDate (date.wall - duration) = true) :
    ∃ earlier, date.sub duration = .ok earlier ∧ earlier.wall = date.wall - duration
      ∧ earlier.offset = date.offset := ⟨_, dif_pos h, rfl, rfl⟩

/-- And takes as much from the moment. -/
theorem instant_of_wall {earlier : DateTime} (hwall : earlier.wall = date.wall - duration)
    (hoffset : earlier.offset = date.offset) (zone : ℤ) :
    earlier.instant zone = date.instant zone - duration := by
  rw [instant, instant, hwall, hoffset]
  omega

theorem sub_of_not_isDate (h : ¬ Python.isDate (date.wall - duration) = true) :
    date.sub duration = .error ⟨"OverflowError", "date value out of range"⟩ := dif_neg h

@[simp] theorem instant_now (time : CurrentTime) : (now time).instant zone = time.instant := by
  simp [now, instant]

/-- A clock is far enough from the first date for what is taken from it here. -/
theorem isDate_sub (time : CurrentTime) (hduration : 0 ≤ duration) (h : duration ≤ 62135596800000000) :
    Python.isDate (time.instant - duration) = true := by
  have hsince := time.since_epoch
  have hdate := time.isDate
  simp only [Python.isDate, Bool.decide_and, Bool.and_eq_true, decide_eq_true_eq] at hdate ⊢
  omega

end DateTime

end ReviewSignal
