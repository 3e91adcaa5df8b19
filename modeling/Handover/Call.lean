import Handover.Word.Region

/-!
# Calls on a bare word

The access regions as commands on a word without cells.  Calls may come in any order and from any
word, so that this is also the place where faults are seen: a call that stops leaves its word
behind, and the next call goes on from there.
-/

namespace Handover

/-- A command on a bare state word. -/
inductive Call where
  | openWrite
  | closeWrite
  | openRead
  /-- Close a read access to the cell with the given number. -/
  | closeRead (index : Nat)
  /-- Put the word at rest, as handing out new handles does. -/
  | connect
  | isDrained
  | isReady

namespace Call

/-- What a call that did not stop answers. -/
inductive Answer where
  | done
  | cell (c : Cell)
  | entry (c : Option Cell)
  | truth (holds : Bool)
  deriving DecidableEq

/-- Carry out one call. -/
def perform (w : Word) : Call → Word × Except Fault Answer
  | openWrite => w.openWrite.map id (·.map Answer.cell)
  | closeWrite => w.closeWrite.map id (·.map fun _ => Answer.done)
  | openRead => w.openRead.map id (·.map Answer.entry)
  | closeRead index => (w.closeReadAt index).map id (·.map fun _ => Answer.done)
  | connect => (w.atRest, .ok .done)
  | isDrained => (w, .ok (.truth w.isDrained))
  | isReady => (w, .ok (.truth w.isReady))

/-- Carry out calls in order, and list each answer with the word after it. -/
def performAll : Word → List Call → List (Except Fault Answer × Word)
  | _, [] => []
  | w, call :: rest =>
      let (after, answer) := call.perform w
      (answer, after) :: performAll after rest

end Call

end Handover
