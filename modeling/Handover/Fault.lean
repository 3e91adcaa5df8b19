/-!
# Faults

An access that finds the state word in a condition its rules exclude stops with a fault.  The
effects it had on the word before it noticed stay.
-/

namespace Handover

/-- Why an access stopped. -/
inductive Fault where
  /-- More accesses are open than one writer and one reader can account for. -/
  | crowded
  /-- A writer left, and the cell it wrote is not fresh. -/
  | unpublished
  /-- A reader came in, and the cell it was to read is not fresh. -/
  | nothingToRead
  /-- A reader left a cell that is not fresh, or left while no access was open. -/
  | notReading
  /-- A cell number is too large for a fresh flag in the word. -/
  | flagOutOfRange
  deriving DecidableEq

namespace Fault

/-- Text under which a fault is reported. -/
def message : Fault → String
  | crowded => "more than one writer or reader"
  | unpublished => "assertion failed: state.is_full(state.active())"
  | nothingToRead => "assertion failed: state.is_full(state.readable())"
  | notReading => "assertion failed: old_state.is_full(cell) && old_state.users() > 0"
  | flagOutOfRange => "attempt to shift left with overflow"

end Fault

end Handover
