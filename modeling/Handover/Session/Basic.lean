import Handover.Buffer
import Handover.Edit
import Handover.Inspect.Basic

/-!
# Sessions

A session is a buffer in the hands of one owner, who acts for both sides by turns.  It holds at most
one pair of handles, and each handle holds at most one guard.  The handle remembers an access whose
guard was leaked; it does not remember anything else.
-/

namespace Handover

/-- Where the producer's handle stands. -/
inductive WriteSide where
  /-- No access is open. -/
  | idle
  /-- A guard over a cell is held. -/
  | held (c : Cell)
  /-- An access is open, and its guard is gone. -/
  | leaked
  deriving DecidableEq

namespace WriteSide

/-- Whether the handle counts an access as open. -/
def writing : WriteSide → Bool
  | idle => false
  | held _ | leaked => true

end WriteSide

/-- Where the consumer's handle stands. -/
inductive ReadSide where
  /-- No access is open. -/
  | idle
  /-- A guard over a cell is held. -/
  | held (c : Cell)
  /-- An access to a cell is open, and its guard is gone. -/
  | leaked (c : Cell)
  deriving DecidableEq

namespace ReadSide

/-- Cell to which the handle counts an access as open. -/
def reading : ReadSide → Option Cell
  | idle => none
  | held c | leaked c => some c

end ReadSide

/-- The two handles of a buffer. -/
structure Handles where
  /-- The producer's handle. -/
  input : WriteSide
  /-- The consumer's handle. -/
  output : ReadSide
  deriving DecidableEq

namespace Handles

/-- Handles as they are given out. -/
def fresh : Handles :=
  ⟨.idle, .idle⟩

end Handles

/-- A buffer with the handles that are out. -/
structure Session (α : Type) where
  /-- The buffer. -/
  buffer : Buffer α
  /-- The handles, if a pair is out. -/
  handles : Option Handles
  deriving DecidableEq

namespace Session

variable {α : Type}

/-- A session over a buffer to which no handle is out. -/
def new (buffer : Buffer α) : Session α :=
  ⟨buffer, none⟩

end Session

/-- Why a request was turned away before anything was done. -/
inductive Rejection where
  /-- No handles are out. -/
  | notConnected
  /-- A write guard is held. -/
  | writeOpen
  /-- A read guard is held. -/
  | readOpen
  /-- No write guard is held. -/
  | noWrite
  /-- No read guard is held. -/
  | noRead
  /-- The request makes no sense for what it is addressed to. -/
  | malformed
  deriving DecidableEq

/-- Requests to the owner of the buffer. -/
inductive OwnerRequest where
  /-- Give out a new pair of handles. -/
  | connect
  /-- Take the handles back. -/
  | disconnect
  | inspect (layout : Layout)

/-- Requests to the producer's handle. -/
inductive InputRequest (α : Type) where
  /-- Publish a value. -/
  | write (value : α)
  /-- Open an access, or resume the leaked one, and hold its guard. -/
  | start
  /-- Ask whether every published value was consumed. -/
  | isDrained
  | inspect (layout : Layout)
  | malformed

/-- Requests to the consumer's handle. -/
inductive OutputRequest where
  /-- Consume the latest value, if there is one. -/
  | read
  /-- Open an access if there is something to read, or resume the leaked one, and hold its guard. -/
  | start
  /-- Ask whether a read would find a value. -/
  | isReady
  | inspect (layout : Layout)

/-- Requests to a guard, with answers of type `ρ` to edits. -/
inductive GuardRequest (α ρ : Type) where
  /-- Edit the value of the cell in place. -/
  | edit (e : Edit α ρ)
  /-- Close the access. -/
  | finish
  /-- Give up the guard and leave the access open. -/
  | leak
  | inspect (layout : Layout)
  | malformed

/-- A request to the handles, by what it is addressed to. -/
inductive HandleRequest (α ρ : Type) where
  | input (request : InputRequest α)
  | writeGuard (request : GuardRequest α ρ)
  | output (request : OutputRequest)
  | readGuard (request : GuardRequest α ρ)
  /-- A request that neither handle knows. -/
  | malformed

/-- A request, by who answers it. -/
inductive Request (α ρ : Type) where
  | owner (request : OwnerRequest)
  | handles (request : HandleRequest α ρ)

/-- What a request is answered. -/
inductive Reply (α ρ : Type) where
  | done
  /-- An access to a cell was opened or resumed. -/
  | cell (c : Cell)
  /-- A read access was opened or resumed, if there was something to read. -/
  | entry (c : Option Cell)
  /-- A value was consumed, if there was one. -/
  | value (v : Option α)
  | truth (holds : Bool)
  | text (shown : String)
  | edited (answer : ρ)
  | fault (f : Fault)
  | rejected (r : Rejection)

end Handover
