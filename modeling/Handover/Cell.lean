/-!
# The two cells

A buffer owns exactly two storage cells.  `Cell` names one of them and `Cells` holds what is stored
in both.  A store is seen at the cell it was made in and nowhere else.
-/

namespace Handover

/-- One of the two storage cells of a buffer. -/
inductive Cell where
  | first
  | second
  deriving DecidableEq

namespace Cell

/-- The cell beside this one. -/
def other : Cell → Cell
  | first => second
  | second => first

/-- Number under which a cell is shown. -/
def index : Cell → Nat
  | first => 0
  | second => 1

@[simp]
theorem other_other (c : Cell) : c.other.other = c := by
  cases c <;> rfl

@[simp]
theorem other_ne (c : Cell) : c.other ≠ c := by
  cases c <;> decide

theorem index_lt_two (c : Cell) : c.index < 2 := by
  cases c <;> decide

end Cell

/-- One value for each of the two cells. -/
structure Cells (α : Type) where
  /-- Value of the first cell. -/
  first : α
  /-- Value of the second cell. -/
  second : α
  deriving DecidableEq

namespace Cells

variable {α : Type}

/-- The same value in both cells. -/
def both (value : α) : Cells α :=
  ⟨value, value⟩

/-- Value stored in a cell. -/
def get (cells : Cells α) : Cell → α
  | .first => cells.first
  | .second => cells.second

/-- Replace the value stored in a cell. -/
def set (cells : Cells α) (value : α) : Cell → Cells α
  | .first => { cells with first := value }
  | .second => { cells with second := value }

@[simp]
theorem get_both (value : α) (c : Cell) : (both value).get c = value := by
  cases c <;> rfl

@[simp]
theorem get_set_self (cells : Cells α) (value : α) (c : Cell) :
    (cells.set value c).get c = value := by
  cases c <;> rfl

theorem get_set_of_ne (cells : Cells α) (value : α) {c d : Cell} (distinct : d ≠ c) :
    (cells.set value c).get d = cells.get d := by
  cases c <;> cases d <;> first | rfl | exact absurd rfl distinct

end Cells

end Handover
