import Handover.Race.Remaining
import Handover.Word.Decimal

/-!
# Runs of a race

A schedule names the side that makes the next access.  A side whose program has ended is passed
over.  Whatever the schedule leaves undone is made up for at the end, by the producer first.
-/

namespace Handover

/-- Two sides at work on one buffer. -/
structure Race (α : Type) where
  /-- The buffer they share. -/
  buffer : Buffer α
  /-- The side that writes. -/
  producer : Race.Producer α
  /-- The side that reads. -/
  consumer : Race.Consumer α
  deriving DecidableEq

namespace Race

variable {α : Type}

/-- One access to the state word. -/
structure Event where
  /-- Who made it. -/
  side : Side
  /-- What it was for. -/
  action : Action
  /-- The word it found. -/
  before : Word
  /-- The word it left. -/
  after : Word
  deriving DecidableEq

namespace Event

/-- Line of a trace. -/
def render (e : Event) : String :=
  " ".intercalate [e.side.letter.toString, e.action.kind, e.before.decimal, e.after.decimal]

end Event

/-- A race over a buffer whose handles are given out anew. -/
def new (buffer : Buffer α) (producer : List (Task (Put α))) (consumer : List (Task (Take α))) :
    Race α :=
  ⟨buffer.connect, .new producer, .new consumer⟩

/-- Let one side make its next access. -/
def step? [Add α] (r : Race α) : Side → Option (Event × Race α)
  | .producer =>
      (r.producer.step? r.buffer).map fun (action, buffer, producer) =>
        (⟨.producer, action, r.buffer.word, buffer.word⟩, { r with buffer, producer })
  | .consumer =>
      (r.consumer.step? r.buffer).map fun (action, buffer, consumer) =>
        (⟨.consumer, action, r.buffer.word, buffer.word⟩, { r with buffer, consumer })

/-- Follow a schedule, and list the events in order. -/
def run [Add α] : List Side → Race α → List Event × Race α
  | [], r => ([], r)
  | side :: rest, r =>
      match r.step? side with
      | none => run rest r
      | some (event, next) =>
          let (events, last) := run rest next
          (event :: events, last)

theorem run_append [Add α] (first second : List Side) (r : Race α) :
    run (first ++ second) r =
      ((run first r).1 ++ (run second (run first r).2).1, (run second (run first r).2).2) := by
  induction first generalizing r with
  | nil => rfl
  | cons side rest ih =>
      simp only [List.cons_append, run]
      cases r.step? side with
      | none => exact ih r
      | some found => simp [ih]

/-! ## Runs to the end -/

/-- Most accesses that a side still makes. -/
def remaining (r : Race α) : Side → Nat
  | .producer => r.producer.remaining
  | .consumer => r.consumer.remaining

/-- Schedule that lets a race run to its end, the producer first. -/
def completion (r : Race α) : List Side :=
  List.replicate (r.remaining .producer) .producer
    ++ List.replicate (r.remaining .consumer) .consumer

/-- Follow a schedule, and then run to the end. -/
def play [Add α] (r : Race α) (schedule : List Side) : List Event × Race α :=
  run (schedule ++ r.completion) r

theorem remaining_lt_of_step? [Add α] {r next : Race α} {side : Side} {event : Event}
    (moved : r.step? side = some (event, next)) : next.remaining side < r.remaining side := by
  cases side with
  | producer =>
      obtain ⟨made, found, rest⟩ := Option.map_eq_some_iff.mp moved
      cases rest
      exact Producer.remaining_lt_of_step? found
  | consumer =>
      obtain ⟨made, found, rest⟩ := Option.map_eq_some_iff.mp moved
      cases rest
      exact Consumer.remaining_lt_of_step? found

theorem remaining_le_of_step? [Add α] {r next : Race α} {mover : Side} {event : Event}
    (moved : r.step? mover = some (event, next)) (side : Side) :
    next.remaining side ≤ r.remaining side := by
  by_cases same : side = mover
  · subst same
    exact Nat.le_of_lt (remaining_lt_of_step? moved)
  · cases mover <;> cases side <;>
      first
      | exact absurd rfl same
      | obtain ⟨made, found, rest⟩ := Option.map_eq_some_iff.mp moved
        cases rest
        exact Nat.le_refl _

theorem remaining_run_le [Add α] (schedule : List Side) (r : Race α) (side : Side) :
    (run schedule r).2.remaining side ≤ r.remaining side := by
  induction schedule generalizing r with
  | nil => exact Nat.le_refl _
  | cons mover rest ih =>
      simp only [run]
      split
      · exact ih r
      · next event next moved =>
          exact Nat.le_trans (ih next) (remaining_le_of_step? moved side)

theorem run_replicate_of_ended [Add α] {r : Race α} {side : Side} (ended : r.step? side = none)
    (turns : Nat) : run (List.replicate turns side) r = ([], r) := by
  induction turns with
  | zero => rfl
  | succ turns ih => simp only [List.replicate_succ, run, ended, ih]

/-- A side that is given as many turns as it can still use ends. -/
theorem step?_run_replicate [Add α] (side : Side) (turns : Nat) (r : Race α)
    (enough : r.remaining side ≤ turns) :
    (run (List.replicate turns side) r).2.step? side = none := by
  induction turns generalizing r with
  | zero =>
      cases moved : r.step? side with
      | none => exact moved
      | some found =>
          have fewer : found.2.remaining side < r.remaining side := remaining_lt_of_step? moved
          omega
  | succ turns ih =>
      cases moved : r.step? side with
      | none => rw [run_replicate_of_ended moved]; exact moved
      | some found =>
          have fewer : found.2.remaining side < r.remaining side := remaining_lt_of_step? moved
          simp only [List.replicate_succ, run, moved]
          exact ih found.2 (by omega)

theorem step?_producer_eq_none_iff [Add α] (r : Race α) :
    r.step? .producer = none ↔ r.producer.hasEnded = true := by
  simp [step?, Producer.step?_eq_none_iff]

theorem producer_run_consumer [Add α] (turns : Nat) (r : Race α) :
    (run (List.replicate turns .consumer) r).2.producer = r.producer := by
  induction turns generalizing r with
  | zero => rfl
  | succ turns ih =>
      simp only [List.replicate_succ, run]
      split
      · exact ih r
      · next event next moved =>
          obtain ⟨made, found, rest⟩ := Option.map_eq_some_iff.mp moved
          cases rest
          exact ih _

theorem consumer_run_producer [Add α] (turns : Nat) (r : Race α) :
    (run (List.replicate turns .producer) r).2.consumer = r.consumer := by
  induction turns generalizing r with
  | zero => rfl
  | succ turns ih =>
      simp only [List.replicate_succ, run]
      split
      · exact ih r
      · next event next moved =>
          obtain ⟨made, found, rest⟩ := Option.map_eq_some_iff.mp moved
          cases rest
          exact ih _

/-- When a race was played, neither side makes a further access. -/
theorem step?_play [Add α] (r : Race α) (schedule : List Side) (side : Side) :
    (r.play schedule).2.step? side = none := by
  simp only [play, completion, run_append]
  generalize first : (run schedule r).2 = scheduled
  have bound (side : Side) : scheduled.remaining side ≤ r.remaining side := by
    rw [← first]
    exact remaining_run_le schedule r side
  generalize second :
    (run (List.replicate (r.remaining .producer) .producer) scheduled).2 = produced
  have ended : produced.step? .producer = none := by
    rw [← second]
    exact step?_run_replicate _ _ _ (bound .producer)
  cases side with
  | producer =>
      rw [step?_producer_eq_none_iff, producer_run_consumer]
      exact (step?_producer_eq_none_iff produced).mp ended
  | consumer =>
      apply step?_run_replicate
      refine Nat.le_trans ?_ (bound .consumer)
      rw [← second]
      exact remaining_run_le _ scheduled .consumer

end Race

end Handover
