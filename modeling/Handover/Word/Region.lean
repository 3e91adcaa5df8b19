import Handover.Word.Atomic

/-!
# Undisturbed access regions

Opening and closing an access when the other side stands still: the atomic accesses of each are
made one right after the other.
-/

namespace Handover.Word

/-- Open a write access. -/
def openWrite (w : Word) : Word × Except Fault Cell :=
  w.enterWrite

/-- Attempt the exchange that closing an access left owed. -/
def settleOwed : Word × Except Fault (Option Exchange) → Word × Except Fault Unit
  | (w, .error fault) => (w, .error fault)
  | (w, .ok none) => (w, .ok ())
  | (w, .ok (some x)) => ((x.attempt w).1, .ok ())

/-- Close a write access. -/
def closeWrite (w : Word) : Word × Except Fault Unit :=
  settleOwed (w.publish w.publishAddend)

/-- Open a read access if there is something to read. -/
def openRead (w : Word) : Word × Except Fault (Option Cell) :=
  if w.isReady then
    let (left, entry) := w.enterRead
    (left, entry.map some)
  else
    (w, .ok none)

/-- Close a read access to the cell with the given flag. -/
def closeRead (w : Word) (flag : UInt64) : Word × Except Fault Unit :=
  settleOwed (w.release flag)

/-- Close a read access to the cell with the given number. -/
def closeReadAt (w : Word) (index : Nat) : Word × Except Fault Unit :=
  match flagAt index with
  | .error fault => (w, .error fault)
  | .ok flag => w.closeRead flag

theorem closeReadAt_index (w : Word) (c : Cell) : w.closeReadAt c.index = w.closeRead c.flag := by
  simp [closeReadAt, flagAt_index]

end Handover.Word
