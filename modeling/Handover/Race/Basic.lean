import Handover.Buffer
import Handover.Inspect.Basic

/-!
# Races

In a race the two sides run their programs at the same time.  The accesses to the state word are
indivisible and happen in one total order; between two accesses of its own, a side only touches the
cell it has access to, and that counts to the earlier of the two.

This module holds the programs, the places at which a side can stand between two accesses, and the
events that a race leaves behind.
-/

namespace Handover.Race

/-! ## Programs -/

/-- One of the two parties to a race. -/
inductive Side where
  | producer
  | consumer
  deriving DecidableEq

/-- What a write access does to the value it finds in its cell. -/
inductive Put (α : Type) where
  /-- Replace it, and publish. -/
  | write (value : α)
  /-- Add to it, publish, and answer the value found. -/
  | add (addend : α)
  /-- Replace it, leak the guard, and answer the value found. -/
  | leak (value : α)
  deriving DecidableEq

/-- What a read access does to the value it finds in its cell. -/
inductive Take (α : Type) where
  /-- Consume it and answer it. -/
  | read
  /-- Replace it, consume it, and answer the value found. -/
  | swap (value : α)
  /-- Answer it and leak the guard. -/
  | leak
  deriving DecidableEq

/-- A task of a program: an access of kind `ι`, or a look at the word. -/
inductive Task (ι : Type) where
  | access (how : ι)
  /-- The producer asks whether the buffer is drained, the consumer whether it is ready. -/
  | ask
  /-- Inspect the side's handle. -/
  | inspect
  deriving DecidableEq

/-- What a finished task answers. -/
inductive Answer (α : Type) where
  | done
  | value (v : α)
  | entry (v : Option α)
  | truth (holds : Bool)
  | text (shown : String)
  deriving DecidableEq

/-! ## Places between two accesses -/

/-- Where the producer stands between two accesses. -/
inductive WritePhase (α : Type) where
  /-- No access is open, and the next task has not begun. -/
  | idle
  /-- An access to a cell is open without a guard, and the next task has not begun. -/
  | leaked (c : Cell)
  /-- A cell is filled; the addend that publishes it is still to be computed. -/
  | filled (c : Cell) (answer : Answer α)
  /-- The addend that publishes a cell is computed and still to be applied. -/
  | publishing (c : Cell) (addend : UInt64) (answer : Answer α)
  /-- The cell is published, and an exchange is owed. -/
  | exchanging (owed : Exchange) (answer : Answer α)
  /-- A fault ended the program. -/
  | stopped (fault : Fault)
  deriving DecidableEq

/-- Where the consumer stands between two accesses. -/
inductive ReadPhase (α : Type) where
  /-- No access is open, and the next task has not begun. -/
  | idle
  /-- An access to a cell is open without a guard, and the next task has not begun. -/
  | leaked (c : Cell)
  /-- Something was seen to be there to read, and the access is still to be opened. -/
  | entering (how : Take α)
  /-- A cell was read, and the access to it is still to be closed. -/
  | releasing (c : Cell) (answer : Answer α)
  /-- The access is closed, and an exchange is owed. -/
  | exchanging (owed : Exchange) (answer : Answer α)
  /-- A fault ended the program. -/
  | stopped (fault : Fault)
  deriving DecidableEq

/-- Cell to which the producer has an access open. -/
def WritePhase.openCell {α : Type} : WritePhase α → Option Cell
  | leaked c | filled c _ | publishing c _ _ => some c
  | idle | exchanging _ _ | stopped _ => none

/-- Cell to which the consumer has an access open. -/
def ReadPhase.openCell {α : Type} : ReadPhase α → Option Cell
  | leaked c | releasing c _ => some c
  | idle | entering _ | exchanging _ _ | stopped _ => none

/-- A producer in a race. -/
structure Producer (α : Type) where
  /-- Tasks that have not begun. -/
  program : List (Task (Put α))
  /-- Where the producer stands. -/
  phase : WritePhase α
  /-- Answers of the finished tasks. -/
  answers : List (Answer α)
  deriving DecidableEq

/-- A consumer in a race. -/
structure Consumer (α : Type) where
  /-- Tasks that have not begun. -/
  program : List (Task (Take α))
  /-- Where the consumer stands. -/
  phase : ReadPhase α
  /-- Answers of the finished tasks. -/
  answers : List (Answer α)
  deriving DecidableEq

/-! ## Events -/

/-- What an access to the state word was for. -/
inductive Action where
  /-- Look at the word to answer a question or an inspection. -/
  | look
  /-- Find the cell of the leaked write access. -/
  | resume
  /-- Open an access. -/
  | enter
  /-- Compute the addend that publishes. -/
  | prepare
  /-- Publish the back cell and close the write access. -/
  | publish
  /-- See whether there is something to read. -/
  | poll
  /-- Give up the cell that was read and close the read access. -/
  | release
  /-- Attempt the exchange that is owed. -/
  | exchange (succeeded : Bool)
  deriving DecidableEq

namespace Action

/-- Kind of the access, as it appears in a trace. -/
def kind : Action → String
  | look | resume | prepare | poll => "load"
  | enter | publish => "add"
  | release => "sub"
  | exchange true => "cas"
  | exchange false => "casfail"

end Action

/-- Letter of a side, as it appears in a trace. -/
def Side.letter : Side → Char
  | .producer => 'P'
  | .consumer => 'C'

end Handover.Race
