import Handover.Race.Basic

/-!
# The producer in a race

The producer makes at most four accesses for a task: it opens a write access or finds the cell of
its leaked one again, computes the addend that publishes, applies it, and attempts the exchange it
may then owe.  A leaked write access leaves no memory of its cell with the handle: the cell is
whichever is at the back when the access is resumed.
-/

namespace Handover.Race

variable {α : Type}

namespace Put

/-- Value left in the cell. -/
def fill [Add α] (found : α) : Put α → α
  | write value => value
  | add addend => found + addend
  | leak value => value

/-- Where the producer stands once a cell is filled, and what it can answer already. -/
def after (c : Cell) (found : α) : Put α → WritePhase α × List (Answer α)
  | write _ => (.filled c .done, [])
  | add _ => (.filled c (.value found), [])
  | leak _ => (.leaked c, [.value found])

end Put

namespace Producer

/-- A producer that has not begun its program. -/
def new (program : List (Task (Put α))) : Producer α :=
  ⟨program, .idle, []⟩

/-- Finish the task in hand. -/
def finish (p : Producer α) (answer : Answer α) : Producer α :=
  { p with phase := .idle, answers := p.answers ++ [answer] }

/-- Finish a task that leaves the phase as it was. -/
def reply (p : Producer α) (answer : Answer α) : Producer α :=
  { p with answers := p.answers ++ [answer] }

/-- End the program by a fault. -/
def stop (p : Producer α) (fault : Fault) : Producer α :=
  { p with phase := .stopped fault }

/-- Whether the producer counts an access as open that has no guard. -/
def resumes (p : Producer α) : Bool :=
  match p.phase with
  | .leaked _ => true
  | _ => false

/-- The fault that ended the program, if one did. -/
def fault? (p : Producer α) : Option Fault :=
  match p.phase with
  | .stopped fault => some fault
  | _ => none

/-- Fill the cell to which an access was just opened or found again. -/
def fill [Add α] (b : Buffer α) (p : Producer α) (c : Cell) (put : Put α) :
    Buffer α × Producer α :=
  let found := b.load c
  let (phase, answers) := put.after c found
  (b.store c (put.fill found), { p with phase, answers := p.answers ++ answers })

/-- Open a write access. -/
def enter [Add α] (b : Buffer α) (p : Producer α) (put : Put α) :
    Action × Buffer α × Producer α :=
  match b.word.enterWrite with
  | (word, .ok c) => (.enter, p.fill { b with word } c put)
  | (word, .error fault) => (.enter, { b with word }, p.stop fault)

/-- Apply the addend that publishes. -/
def publish (b : Buffer α) (p : Producer α) (addend : UInt64) (answer : Answer α) :
    Action × Buffer α × Producer α :=
  match b.word.publish addend with
  | (word, .ok none) => (.publish, { b with word }, p.finish answer)
  | (word, .ok (some owed)) =>
      (.publish, { b with word }, { p with phase := .exchanging owed answer })
  | (word, .error fault) => (.publish, { b with word }, p.stop fault)

/-- Attempt the exchange that is owed. -/
def exchange (b : Buffer α) (p : Producer α) (owed : Exchange) (answer : Answer α) :
    Action × Buffer α × Producer α :=
  let (word, succeeded) := owed.attempt b.word
  (.exchange succeeded, { b with word }, p.finish answer)

/-- Begin the next task with its first access. -/
def start [Add α] (b : Buffer α) (p : Producer α) : Task (Put α) → Action × Buffer α × Producer α
  | .access put =>
      if p.resumes then (.resume, p.fill b b.word.back put) else p.enter b put
  | .ask => (.look, b, p.reply (.truth b.word.isDrained))
  | .inspect => (.look, b, p.reply (.text (b.word.inputDoc p.resumes).oneLine))

/-- Make the access before which the producer waits, and run on to the next one.  A producer whose
program has ended makes none. -/
def step? [Add α] (b : Buffer α) (p : Producer α) : Option (Action × Buffer α × Producer α) :=
  match p.phase with
  | .idle | .leaked _ =>
      match p.program with
      | [] => none
      | task :: rest => some (start b { p with program := rest } task)
  | .filled c answer =>
      some (.prepare, b, { p with phase := .publishing c b.word.publishAddend answer })
  | .publishing _ addend answer => some (p.publish b addend answer)
  | .exchanging owed answer => some (p.exchange b owed answer)
  | .stopped _ => none

end Producer

end Handover.Race
