import ReviewSignal.Foundations.DateTimes
import ReviewSignal.Foundations.Faulty

/-!
# The window a request asks for

The dashboard's requests may give either end of a window, both or none.  Two services check the ends
against each other, and three fill in the missing ones from the clock.

A date of a request may have no offset, and Python raises a `TypeError` when it is compared with one that has;
the same of a subtraction that leaves the range of dates.  Both are in the functions of this module, and
`DateWindows` says when they happen.
-/

namespace ReviewSignal

/-- A window with both ends. -/
structure Window where
  startDate : DateTime
  endDate : DateTime
  deriving DecidableEq

namespace Windows

/-- A number of days, as a duration. -/
def days (n : ℤ) : ℤ := n * 86400000000

/-- The check of `list_reviews` and `get_overview`: `if start_date is not None and end_date is not None and
start_date > end_date` -/
def check (startDate endDate : Option DateTime) : Except Exn Unit := do
  if let (some startDate, some endDate) := (startDate, endDate) then
    if ← startDate.after endDate then
      .error ⟨"ValidationFailedError", "start_date must not be after end_date."⟩

/-- The defaults of `get_overview`, `get_ratings` and `get_categories`: `end_date or datetime.now(UTC)`, then
`start_date or (resolved_end - duration)`.  No date is false. -/
def resolve (duration : ℤ) (now : DateTime) (startDate endDate : Option DateTime) : Except Exn Window := do
  let resolvedEnd := endDate.getD now
  let resolvedStart ← match startDate with
    | some startDate => pure startDate
    | none => resolvedEnd.sub duration
  return ⟨resolvedStart, resolvedEnd⟩

end Windows

end ReviewSignal
