import Handover.Race.Basic

/-!
# The consumer in a race

The consumer makes at most four accesses for a task: it polls the word, opens a read access, closes
it, and attempts the exchange it may then owe.  A leaked read access is resumed without an access to
the word, so that the tasks which resume it follow at once on what came before.
-/

namespace Handover.Race

variable {α : Type}

namespace Consumer

/-- Go through the tasks that resume a leaked access to a cell, up to the next access to the word:
reading answers the value found, and leaking the guard again leaves it there for the next task. -/
def resume (c : Cell) : List (Task (Take α)) → Buffer α → List (Answer α) → Buffer α × Consumer α
  | .access .leak :: rest, b, answers => resume c rest b (answers ++ [.entry (some (b.load c))])
  | .access .read :: rest, b, answers =>
      (b, ⟨rest, .releasing c (.entry (some (b.load c))), answers⟩)
  | .access (.swap value) :: rest, b, answers =>
      (b.store c value, ⟨rest, .releasing c (.entry (some (b.load c))), answers⟩)
  | program, b, answers => (b, ⟨program, .leaked c, answers⟩)

/-- A consumer that has not begun its program. -/
def new (program : List (Task (Take α))) : Consumer α :=
  ⟨program, .idle, []⟩

/-- Finish the task in hand with no access open. -/
def finish (p : Consumer α) (answer : Answer α) : Consumer α :=
  { p with phase := .idle, answers := p.answers ++ [answer] }

/-- End the program by a fault. -/
def stop (p : Consumer α) (fault : Fault) : Consumer α :=
  { p with phase := .stopped fault }

/-- The fault that ended the program, if one did. -/
def fault? (p : Consumer α) : Option Fault :=
  match p.phase with
  | .stopped fault => some fault
  | _ => none

/-- Open a read access, and use it. -/
def enter (b : Buffer α) (p : Consumer α) (take : Take α) : Action × Buffer α × Consumer α :=
  match b.word.enterRead with
  | (word, .ok c) => (.enter, resume c (.access take :: p.program) { b with word } p.answers)
  | (word, .error fault) => (.enter, { b with word }, p.stop fault)

/-- Close the read access to a cell. -/
def release (b : Buffer α) (p : Consumer α) (c : Cell) (answer : Answer α) :
    Action × Buffer α × Consumer α :=
  match b.word.release c.flag with
  | (word, .ok none) => (.release, { b with word }, p.finish answer)
  | (word, .ok (some owed)) =>
      (.release, { b with word }, { p with phase := .exchanging owed answer })
  | (word, .error fault) => (.release, { b with word }, p.stop fault)

/-- Attempt the exchange that is owed. -/
def exchange (b : Buffer α) (p : Consumer α) (owed : Exchange) (answer : Answer α) :
    Action × Buffer α × Consumer α :=
  let (word, succeeded) := owed.attempt b.word
  (.exchange succeeded, { b with word }, p.finish answer)

/-- See whether there is something to read. -/
def poll (b : Buffer α) (p : Consumer α) (take : Take α) : Action × Buffer α × Consumer α :=
  (.poll, b, if b.word.isReady then { p with phase := .entering take } else p.finish (.entry none))

/-- Answer to a look at the word while an access to `leaked`, if any, is open without a guard. -/
def lookAnswer? (w : Word) (leaked : Option Cell) : Task (Take α) → Option (Answer α)
  | .access _ => none
  | .ask => some (.truth (leaked.isSome || w.isReady))
  | .inspect => some (.text (w.outputDoc leaked).oneLine)

/-- Make the access before which the consumer waits, and run on to the next one.  A consumer whose
program has ended makes none, and a leaked access is never met by a task that resumes it. -/
def step? (b : Buffer α) (p : Consumer α) : Option (Action × Buffer α × Consumer α) :=
  match p.phase, p.program with
  | .idle, .access take :: rest => some (poll b { p with program := rest } take)
  | .idle, task :: rest =>
      (lookAnswer? b.word none task).map fun answer =>
        (.look, b, finish { p with program := rest } answer)
  | .leaked c, task :: rest =>
      (lookAnswer? b.word (some c) task).map fun answer =>
        (.look, resume c rest b (p.answers ++ [answer]))
  | .idle, [] | .leaked _, [] => none
  | .entering take, _ => some (p.enter b take)
  | .releasing c answer, _ => some (p.release b c answer)
  | .exchanging owed answer, _ => some (p.exchange b owed answer)
  | .stopped _, _ => none

end Consumer

end Handover.Race
