import Handover.Session.Basic

/-!
# How a session answers

A request is first checked against what it is addressed to, and turned away if that is not there or
is in use; a request that is turned away changes nothing.  One that a fault stops keeps the effects
it had, and the access it was opening or closing counts as leaked, except that a read access that
could not be opened is forgotten.
-/

namespace Handover.Session

variable {α ρ : Type}

/-! ## The owner -/

/-- Answer the owner once no guard is held. -/
def answerOwner (s : Session α) : OwnerRequest → Reply α ρ × Session α
  | .connect => (.done, ⟨s.buffer.connect, some .fresh⟩)
  | .disconnect => (.done, { s with handles := none })
  | .inspect layout => (.text (s.buffer.word.bufferDoc.render layout), s)

/-- The guard that keeps the handles from being taken back. -/
def blocking : Option Handles → Option Rejection
  | some ⟨.held _, _⟩ => some .writeOpen
  | some ⟨_, .held _⟩ => some .readOpen
  | _ => none

/-- Answer a request to the owner, who can inspect the buffer at any time. -/
def stepOwner (s : Session α) (request : OwnerRequest) : Reply α ρ × Session α :=
  match request, blocking s.handles with
  | .inspect layout, _ => s.answerOwner (.inspect layout)
  | request, none => s.answerOwner request
  | _, some rejection => (.rejected rejection, s)

/-! ## The producer's handle -/

/-- Close the write access. -/
def closeWrite (b : Buffer α) : Reply α ρ × Buffer α × WriteSide :=
  match b.closeWrite with
  | (b, .ok ()) => (.done, b, .idle)
  | (b, .error fault) => (.fault fault, b, .leaked)

/-- Answer a request to the producer's handle, which holds no guard. -/
def answerInput (b : Buffer α) (leaked : Bool) :
    InputRequest α → Reply α ρ × Buffer α × WriteSide
  | .write value =>
      match b.openWrite leaked with
      | (b, .ok c) => closeWrite (b.store c value)
      | (b, .error fault) => (.fault fault, b, .leaked)
  | .start =>
      match b.openWrite leaked with
      | (b, .ok c) => (.cell c, b, .held c)
      | (b, .error fault) => (.fault fault, b, .leaked)
  | .isDrained => (.truth b.word.isDrained, b, if leaked then .leaked else .idle)
  | .inspect layout =>
      (.text ((b.word.inputDoc leaked).render layout), b, if leaked then .leaked else .idle)
  | .malformed => (.rejected .malformed, b, if leaked then .leaked else .idle)

/-- Answer a request to the producer's guard over a cell. -/
def answerWriteGuard [Inspect α] (b : Buffer α) (c : Cell) :
    GuardRequest α ρ → Reply α ρ × Buffer α × WriteSide
  | .edit e => (.edited (e.run (b.load c)).1, b.store c (e.run (b.load c)).2, .held c)
  | .finish => closeWrite b
  | .leak => (.done, b, .leaked)
  | .inspect layout =>
      (.text ((c.guardDoc "WriteGuard" (b.load c)).render layout), b, .held c)
  | .malformed => (.rejected .malformed, b, .held c)

/-! ## The consumer's handle -/

/-- Close the read access to a cell, and answer as told if that succeeds. -/
def closeRead (b : Buffer α) (c : Cell) (reply : Reply α ρ) :
    Reply α ρ × Buffer α × ReadSide :=
  match b.closeRead c with
  | (b, .ok ()) => (reply, b, .idle)
  | (b, .error fault) => (.fault fault, b, .leaked c)

/-- The handle of a consumer that holds no guard. -/
def unguarded : Option Cell → ReadSide
  | none => .idle
  | some c => .leaked c

/-- Answer a request to the consumer's handle, which holds no guard. -/
def answerOutput (b : Buffer α) (leaked : Option Cell) :
    OutputRequest → Reply α ρ × Buffer α × ReadSide
  | .read =>
      match b.openRead leaked with
      | (b, .ok none) => (.value none, b, .idle)
      | (b, .ok (some c)) => closeRead b c (.value (some (b.load c)))
      | (b, .error fault) => (.fault fault, b, .idle)
  | .start =>
      match b.openRead leaked with
      | (b, .ok none) => (.entry none, b, .idle)
      | (b, .ok (some c)) => (.entry (some c), b, .held c)
      | (b, .error fault) => (.fault fault, b, .idle)
  | .isReady => (.truth (leaked.isSome || b.word.isReady), b, unguarded leaked)
  | .inspect layout => (.text ((b.word.outputDoc leaked).render layout), b, unguarded leaked)

/-- Answer a request to the consumer's guard over a cell. -/
def answerReadGuard [Inspect α] (b : Buffer α) (c : Cell) :
    GuardRequest α ρ → Reply α ρ × Buffer α × ReadSide
  | .edit e => (.edited (e.run (b.load c)).1, b.store c (e.run (b.load c)).2, .held c)
  | .finish => closeRead b c .done
  | .leak => (.done, b, .leaked c)
  | .inspect layout =>
      (.text ((c.guardDoc "ReadGuard" (b.load c)).render layout), b, .held c)
  | .malformed => (.rejected .malformed, b, .held c)

/-! ## Requests -/

/-- The session after the producer's side moved. -/
def withInput (output : ReadSide) : Reply α ρ × Buffer α × WriteSide → Reply α ρ × Session α
  | (reply, buffer, input) => (reply, ⟨buffer, some ⟨input, output⟩⟩)

/-- The session after the consumer's side moved. -/
def withOutput (input : WriteSide) : Reply α ρ × Buffer α × ReadSide → Reply α ρ × Session α
  | (reply, buffer, output) => (reply, ⟨buffer, some ⟨input, output⟩⟩)

/-- Answer a request to one of the handles or guards. -/
def stepHandles [Inspect α] (s : Session α) (h : Handles) :
    HandleRequest α ρ → Reply α ρ × Session α
  | .input request =>
      match h.input with
      | .held _ => (.rejected .writeOpen, s)
      | .idle => withInput h.output (answerInput s.buffer false request)
      | .leaked => withInput h.output (answerInput s.buffer true request)
  | .writeGuard request =>
      match h.input with
      | .held c => withInput h.output (answerWriteGuard s.buffer c request)
      | .idle | .leaked => (.rejected .noWrite, s)
  | .output request =>
      match h.output with
      | .held _ => (.rejected .readOpen, s)
      | .idle => withOutput h.input (answerOutput s.buffer none request)
      | .leaked c => withOutput h.input (answerOutput s.buffer (some c) request)
  | .readGuard request =>
      match h.output with
      | .held c => withOutput h.input (answerReadGuard s.buffer c request)
      | .idle | .leaked _ => (.rejected .noRead, s)
  | .malformed => (.rejected .malformed, s)

/-- Answer a request. -/
def step [Inspect α] (s : Session α) : Request α ρ → Reply α ρ × Session α
  | .owner request => s.stepOwner request
  | .handles request =>
      match s.handles with
      | none => (.rejected .notConnected, s)
      | some h => s.stepHandles h request

/-- Answer requests in order. -/
def run [Inspect α] : List (Request α ρ) → Session α → Session α
  | [], s => s
  | request :: rest, s => run rest (s.step request).2

theorem run_append [Inspect α] (first second : List (Request α ρ)) (s : Session α) :
    run (first ++ second) s = run second (run first s) := by
  induction first generalizing s with
  | nil => rfl
  | cons request rest ih => exact ih (s.step request).2

/-- Answer requests in order, and list each reply with the word after it. -/
def transcript [Inspect α] : List (Request α ρ) → Session α → List (Reply α ρ × Word)
  | [], _ => []
  | request :: rest, s =>
      let (reply, after) := s.step request
      (reply, after.buffer.word) :: transcript rest after

end Handover.Session
