import Handover.Race.Consumer
import Handover.Race.Producer

/-!
# How much of a program remains

The number of accesses that a side can still make is bounded by what its phase has pending and four
accesses for every task that has not begun.  Each access lowers the bound, so that a program ends
however it is interleaved with the other.
-/

namespace Handover.Race

variable {α : Type}

/-- Most accesses that the producer still makes for the task in hand. -/
def WritePhase.pending : WritePhase α → Nat
  | filled _ _ => 3
  | publishing _ _ _ => 2
  | exchanging _ _ => 1
  | idle | leaked _ | stopped _ => 0

/-- Most accesses that the consumer still makes for the task in hand. -/
def ReadPhase.pending : ReadPhase α → Nat
  | entering _ => 3
  | releasing _ _ => 2
  | exchanging _ _ => 1
  | idle | leaked _ | stopped _ => 0

namespace Producer

/-- Most accesses that the producer still makes. -/
def remaining (p : Producer α) : Nat :=
  p.phase.pending + 4 * p.program.length

/-- Whether the producer makes no more accesses. -/
def hasEnded (p : Producer α) : Bool :=
  match p.phase, p.program with
  | .idle, [] | .leaked _, [] | .stopped _, _ => true
  | _, _ => false

theorem remaining_fill_le [Add α] (b : Buffer α) (p : Producer α) (c : Cell) (put : Put α) :
    (p.fill b c put).2.remaining ≤ 3 + 4 * p.program.length := by
  cases put <;> simp [fill, Put.after, remaining, WritePhase.pending]

theorem remaining_start_lt [Add α] (b : Buffer α) (p : Producer α) (task : Task (Put α))
    (resting : p.phase.pending = 0) :
    (p.start b task).2.2.remaining < 4 * (p.program.length + 1) := by
  cases task with
  | access put =>
      simp only [start]
      split
      · exact Nat.lt_of_le_of_lt (remaining_fill_le ..) (by omega)
      · simp only [enter]
        split
        · exact Nat.lt_of_le_of_lt (remaining_fill_le ..) (by omega)
        · simp [stop, remaining, WritePhase.pending]
  | ask => simp [start, reply, remaining, resting]
  | inspect => simp [start, reply, remaining, resting]

theorem remaining_lt_of_step? [Add α] {b : Buffer α} {p : Producer α}
    {made : Action × Buffer α × Producer α} (moved : p.step? b = some made) :
    made.2.2.remaining < p.remaining := by
  obtain ⟨program, phase, answers⟩ := p
  cases phase with
  | idle | leaked _ =>
      cases program with
      | nil => simp [step?] at moved
      | cons task rest =>
          simp only [step?, Option.some.injEq] at moved
          subst moved
          exact Nat.lt_of_lt_of_eq (remaining_start_lt _ _ _ rfl)
            (by simp [remaining, WritePhase.pending])
  | filled c answer =>
      simp only [step?, Option.some.injEq] at moved
      subst moved
      simp [remaining, WritePhase.pending]
  | publishing c addend answer =>
      simp only [step?, Option.some.injEq, publish] at moved
      subst moved
      split <;> simp [remaining, WritePhase.pending, finish, stop]
  | exchanging owed answer =>
      simp only [step?, Option.some.injEq] at moved
      subst moved
      simp [exchange, remaining, WritePhase.pending, finish]
  | stopped fault => simp [step?] at moved

/-- Whether the producer makes a further access does not depend on the buffer. -/
theorem step?_eq_none_iff [Add α] (b : Buffer α) (p : Producer α) :
    p.step? b = none ↔ p.hasEnded = true := by
  obtain ⟨program, phase, answers⟩ := p
  cases phase <;> cases program <;> simp [step?, hasEnded]

end Producer

namespace Consumer

/-- Most accesses that the consumer still makes. -/
def remaining (p : Consumer α) : Nat :=
  p.phase.pending + 4 * p.program.length

theorem remaining_resume_le (c : Cell) (program : List (Task (Take α))) (b : Buffer α)
    (answers : List (Answer α)) :
    (resume c program b answers).2.remaining ≤ 4 * program.length := by
  fun_induction resume c program b answers with
  | case1 rest b answers ih => exact Nat.le_trans ih (by simp only [List.length_cons]; omega)
  | case2 rest b answers => simp [remaining, ReadPhase.pending]; omega
  | case3 value rest b answers => simp [remaining, ReadPhase.pending]; omega
  | case4 program b answers => simp [remaining, ReadPhase.pending]

theorem remaining_enter_lt (b : Buffer α) (p : Consumer α) (take : Take α) :
    (p.enter b take).2.2.remaining < 3 + 4 * p.program.length := by
  simp only [enter]
  split
  · cases take with
    | read => simp [resume, remaining, ReadPhase.pending]
    | swap value => simp [resume, remaining, ReadPhase.pending]
    | leak =>
        simp only [resume]
        exact Nat.lt_of_le_of_lt (remaining_resume_le ..) (by omega)
  · simp [stop, remaining, ReadPhase.pending]

theorem remaining_lt_of_step? {b : Buffer α} {p : Consumer α}
    {made : Action × Buffer α × Consumer α} (moved : p.step? b = some made) :
    made.2.2.remaining < p.remaining := by
  obtain ⟨program, phase, answers⟩ := p
  cases phase with
  | idle =>
      cases program with
      | nil => simp [step?] at moved
      | cons task rest =>
          cases task with
          | access take =>
              simp only [step?, Option.some.injEq, poll] at moved
              subst moved
              split
              · simp only [remaining, ReadPhase.pending, List.length_cons]
                omega
              · simp [remaining, ReadPhase.pending, finish]
          | ask | inspect =>
              simp only [step?, lookAnswer?, Option.map_some, Option.some.injEq] at moved
              subst moved
              simp [remaining, ReadPhase.pending, finish]
  | leaked c =>
      cases program with
      | nil => simp [step?] at moved
      | cons task rest =>
          cases task with
          | access take => simp [step?, lookAnswer?] at moved
          | ask | inspect =>
              simp only [step?, lookAnswer?, Option.map_some, Option.some.injEq] at moved
              subst moved
              exact Nat.lt_of_le_of_lt (remaining_resume_le ..)
                (by simp [remaining, ReadPhase.pending])
  | entering take =>
      simp only [step?, Option.some.injEq] at moved
      subst moved
      exact remaining_enter_lt ..
  | releasing c answer =>
      simp only [step?, Option.some.injEq, release] at moved
      subst moved
      split <;> simp [remaining, ReadPhase.pending, finish, stop]
  | exchanging owed answer =>
      simp only [step?, Option.some.injEq] at moved
      subst moved
      simp [exchange, remaining, ReadPhase.pending, finish]
  | stopped fault => simp [step?] at moved

end Consumer

end Handover.Race
