import Handover.Cell
import Handover.Fault

/-!
# The state word

All that the two sides agree on is packed into one 64-bit word.  From the lowest bit up it holds

* the back cell, which the producer fills, in one bit; the front cell, which the consumer empties,
  is the other one;
* the number of open accesses, in two bits;
* for each cell, in one bit, whether it is fresh: it holds a published value that nobody consumed.

The bits above these five have no meaning and are carried along.
-/

namespace Handover

/-- Bit of the state word which says that a cell is fresh. -/
def Cell.flag : Cell → UInt64
  | .first => 8
  | .second => 16

/-- The state word shared by the two sides. -/
structure Word where
  /-- The packed fields. -/
  bits : UInt64
  deriving DecidableEq

namespace Word

/-- Amount by which one open access raises the word. -/
def oneAccess : UInt64 := 2

/-- The first cell is at the back, nobody is inside and nothing is fresh. -/
def initial : Word := ⟨0⟩

/-! ## Reading the fields -/

/-- The cell which the producer fills. -/
def back (w : Word) : Cell :=
  if w.bits &&& 1 = 0 then .first else .second

/-- The cell which the consumer empties. -/
def front (w : Word) : Cell :=
  w.back.other

/-- Number of accesses that were opened and not closed yet. -/
def openCount (w : Word) : Nat :=
  ((w.bits &&& 6) >>> 1).toNat

/-- Whether any bit of a flag is set. -/
def hasFlag (w : Word) (flag : UInt64) : Bool :=
  w.bits &&& flag != 0

/-- Whether a cell holds a published value that nobody consumed. -/
def isFresh (w : Word) (c : Cell) : Bool :=
  w.hasFlag c.flag

/-- Whether a read would find a value. -/
def isReady (w : Word) : Bool :=
  w.isFresh w.front

/-- Whether every published value was consumed. -/
def isDrained (w : Word) : Bool :=
  !(w.isFresh .first || w.isFresh .second)

/-! ## Flags by number -/

/-- Flag of the cell with a given number.  It leaves the word silently when its bit lies beyond the
last one, and it is refused when the number alone is beyond the width of the word. -/
def flagAt (index : Nat) : Except Fault UInt64 :=
  if index < 64 then .ok (8 <<< index.toUInt64) else .error .flagOutOfRange

theorem flagAt_index (c : Cell) : flagAt c.index = .ok c.flag := by
  cases c <;> rfl

/-- Whether the cell with a given number is fresh. -/
def isFreshAt (w : Word) (index : Nat) : Except Fault Bool :=
  (flagAt index).map w.hasFlag

/-! ## Words derived from this one -/

/-- The word with one more open access. -/
def entered (w : Word) : Word :=
  ⟨w.bits + oneAccess⟩

/-- Addend which makes the back cell fresh, if it is not so yet, and closes one access. -/
def publishAddend (w : Word) : UInt64 :=
  (w.back.flag &&& ~~~w.bits) - oneAccess

/-- The word with the two cells in each other's place and all flags kept. -/
def turned (w : Word) : Word :=
  ⟨w.bits ^^^ 1⟩

/-- The word after the back cell was brought to the front, and the value it supersedes there was
given up. -/
def presented (w : Word) : Word :=
  ⟨w.turned.bits &&& ~~~w.front.flag⟩

/-- The word with no open access. -/
def vacated (w : Word) : Word :=
  ⟨w.bits &&& ~~~6⟩

/-- The word once nobody is inside any more: a fresh back cell comes to the front, unless a fresh
value waits there already. -/
def atRest (w : Word) : Word :=
  let idle := w.vacated
  if idle.isFresh idle.back && !idle.isFresh idle.front then idle.turned else idle

end Word

end Handover
