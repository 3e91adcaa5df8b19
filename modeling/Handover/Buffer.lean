import Handover.Word.Region

/-!
# Double buffers

A buffer is a state word and two cells.  One producer writes to the back cell and one consumer reads
from the front cell; what they do to the word is the same whatever the cells hold.

The functions here open and close accesses while the other side stands still.  A side that leaked an
access, that is gave up its guard without closing it, resumes that access when it next opens one.
-/

namespace Handover

/-- A state word and two storage cells. -/
structure Buffer (α : Type) where
  /-- The state word. -/
  word : Word
  /-- The stored values. -/
  cells : Cells α
  deriving DecidableEq

namespace Buffer

variable {α : Type}

/-- A buffer with the same value in both cells and nothing published. -/
def new (initial : α) : Buffer α :=
  ⟨.initial, .both initial⟩

instance [Inhabited α] : Inhabited (Buffer α) where
  default := new default

/-- Value in a cell. -/
def load (b : Buffer α) (c : Cell) : α :=
  b.cells.get c

/-- Replace the value in a cell. -/
def store (b : Buffer α) (c : Cell) (value : α) : Buffer α :=
  { b with cells := b.cells.set value c }

/-- Put the word at rest before new handles are given out: every access still open was leaked. -/
def connect (b : Buffer α) : Buffer α :=
  { b with word := b.word.atRest }

/-- Open a write access, or resume the leaked one, and tell which cell it is to. -/
def openWrite (b : Buffer α) (leaked : Bool) : Buffer α × Except Fault Cell :=
  if leaked then (b, .ok b.word.back)
  else
    let (word, entry) := b.word.openWrite
    ({ b with word }, entry)

/-- Close the write access, and publish the cell it was to. -/
def closeWrite (b : Buffer α) : Buffer α × Except Fault Unit :=
  let (word, exit) := b.word.closeWrite
  ({ b with word }, exit)

/-- Open a read access if there is something to read, or resume the leaked one. -/
def openRead (b : Buffer α) (leaked : Option Cell) : Buffer α × Except Fault (Option Cell) :=
  match leaked with
  | some c => (b, .ok (some c))
  | none =>
      let (word, entry) := b.word.openRead
      ({ b with word }, entry)

/-- Close the read access to a cell, whose value is consumed. -/
def closeRead (b : Buffer α) (c : Cell) : Buffer α × Except Fault Unit :=
  let (word, exit) := b.word.closeRead c.flag
  ({ b with word }, exit)

end Buffer

end Handover
