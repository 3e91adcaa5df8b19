import Handover.Proofs.Race.Coherence

/-!
# Exclusive cells

The record of a run tells which cell each side holds: the one named when its access was opened,
until the access is closed.  Wherever a run has got to, the producer holds the back cell or none,
and the consumer the front cell or none, so that a value is never in the hands of both.
-/

namespace Handover.Race

variable {α : Type}

/-! ## Cells held by a side -/

/-- Cell to which the producer has an access open after an event, given the one before: it is named
when the access is opened, and given up when it is closed. -/
def Event.heldForWriting (held : Option Cell) (e : Event) : Option Cell :=
  match e.side, e.action with
  | .producer, .enter => some e.before.back
  | .producer, .publish => none
  | _, _ => held

/-- Cell to which the consumer has an access open after an event, given the one before. -/
def Event.heldForReading (held : Option Cell) (e : Event) : Option Cell :=
  match e.side, e.action with
  | .consumer, .enter => some e.after.front
  | .consumer, .release => none
  | _, _ => held

/-- Cell to which the producer has an access open after the events of a run. -/
def heldForWriting (events : List Event) : Option Cell :=
  events.foldl Event.heldForWriting none

/-- Cell to which the consumer has an access open after the events of a run. -/
def heldForReading (events : List Event) : Option Cell :=
  events.foldl Event.heldForReading none

theorem WriteMove.openCell {b after : Buffer α} {writer next : WritePhase α} {action : Action}
    (move : WriteMove b writer after next action) :
    next.openCell =
      Event.heldForWriting writer.openCell ⟨.producer, action, b.word, after.word⟩ := by
  cases move with
  | look same stays => rw [stays]; rfl
  | enter began word value cells fills => exact fills.openCell
  | resume began word value cells fills => rw [fills.openCell, began]; rfl
  | prepare began same goes => rw [goes, began]; rfl
  | publish began word cells goes => rcases goes with ⟨-, rfl⟩ | ⟨-, rfl⟩ <;> rfl
  | present began vacant fresh word cells goes => rw [goes, began]; rfl
  | miss began missed same goes => rw [goes, began]; rfl

theorem ReadMove.openCell {b after : Buffer α} {reader next : ReadPhase α}
    {told : List (Answer α)} {action : Action} (move : ReadMove b reader after next told action) :
    next.openCell =
      Event.heldForReading reader.openCell ⟨.consumer, action, b.word, after.word⟩ := by
  cases move with
  | look began same goes quiet tells => rw [goes, began]; rfl
  | lookOn began word quiet tells uses => rw [uses.openCell, began]; rfl
  | pollEmpty began empty same goes tells => rw [goes, began]; rfl
  | pollReady began ready same goes silent => rw [goes, began]; rfl
  | enter began word uses tells =>
      rw [uses.openCell]
      exact congrArg some (congrArg Fields.front word).symm
  | release began word cells goes silent => rcases goes with ⟨-, rfl⟩ | ⟨-, rfl⟩ <;> rfl
  | turn began vacant fresh drained word cells goes silent => rw [goes, began]; rfl
  | miss began missed same goes silent => rw [goes, began]; rfl

theorem Move.openCell {r next : Race α} {event : Event} (move : Move r next event) :
    next.producer.phase.openCell = event.heldForWriting r.producer.phase.openCell ∧
      next.consumer.phase.openCell = event.heldForReading r.consumer.phase.openCell := by
  cases move with
  | producer kept move =>
      refine ⟨move.openCell, ?_⟩
      rw [kept]
      rfl
  | consumer kept known move =>
      refine ⟨?_, move.openCell⟩
      rw [kept]
      rfl

/-- The cells turn only while no access is open. -/
theorem Move.back {r next : Race α} {event : Event} (move : Move r next event)
    (busy : r.buffer.word.openCount ≠ 0) : next.buffer.word.back = r.buffer.word.back := by
  cases move with
  | producer kept move =>
      cases move with
      | look same stays => rw [same]
      | enter began word value cells fills => exact congrArg Fields.back word
      | resume began word value cells fills => rw [word]
      | prepare began same goes => rw [same]
      | publish began word cells goes => exact congrArg Fields.back word
      | present began vacant fresh word cells goes => exact absurd vacant busy
      | miss began missed same goes => rw [same]
  | consumer kept known move =>
      cases move with
      | look began same goes quiet tells => rw [same]
      | lookOn began word quiet tells uses => rw [word]
      | pollEmpty began empty same goes tells => rw [same]
      | pollReady began ready same goes silent => rw [same]
      | enter began word uses tells => exact congrArg Fields.back word
      | release began word cells goes silent => exact congrArg Fields.back word
      | turn began vacant fresh drained word cells goes silent => exact absurd vacant busy
      | miss began missed same goes silent => rw [same]

/-- The cell that a side works on is the one named when its access was opened, however often the
guard was leaked and the access resumed. -/
theorem openCell_run [Add α] (buffer : Buffer α) (producer : List (Task (Put α)))
    (consumer : List (Task (Take α))) (schedule : List Side) :
    (run schedule (new buffer producer consumer)).2.producer.phase.openCell =
        heldForWriting (run schedule (new buffer producer consumer)).1 ∧
      (run schedule (new buffer producer consumer)).2.consumer.phase.openCell =
        heldForReading (run schedule (new buffer producer consumer)).1 := by
  have kept := recount_induction
    (motive := fun r past => r.IsCoherent ∧
      r.producer.phase.openCell = heldForWriting past ∧
      r.consumer.phase.openCell = heldForReading past)
    (fun past _ event _ => past ++ [event]) ?_ schedule []
    ⟨isCoherent_new buffer producer consumer, rfl, rfl⟩
  · rw [recount_events, List.nil_append] at kept
    exact kept.2
  · rintro r past side event next ⟨coherent, writing, reading⟩ moved
    have move := coherent.move moved
    refine ⟨coherent.step move, ?_, ?_⟩
    · rw [heldForWriting, List.foldl_append, move.openCell.1, writing]
      rfl
    · rw [heldForReading, List.foldl_append, move.openCell.2, reading]
      rfl

theorem ReadPhase.Fits.openCell {f : Fields} {reader : ReadPhase α} {c : Cell}
    (fits : reader.Fits f) (holds : reader.openCell = some c) :
    c = f.front ∧ f.fresh.get c = true := by
  cases reader with
  | leaked d | releasing d answer =>
      cases holds
      exact fits
  | idle | entering how | exchanging owed answer | stopped fault => cases holds

theorem WritePhase.Fits.openCell {f : Fields} {writer : WritePhase α} {c : Cell}
    (fits : writer.Fits f) (holds : writer.openCell = some c) : c = f.back := by
  cases writer with
  | leaked d | filled d answer =>
      cases holds
      exact fits
  | publishing d addend answer =>
      cases holds
      exact fits.1
  | idle | exchanging owed answer | stopped fault => cases holds

/-- Wherever a run has got to, from whatever word it began, the word counts the accesses that are
open, each side works on the cell that it holds, the producer at the back and the consumer at the
front, where it finds a fresh value; the two never hold the same cell, and the cells do not turn
while either is held. -/
theorem cells_held_apart [Add α] (buffer : Buffer α) (producer : List (Task (Put α)))
    (consumer : List (Task (Take α))) (schedule : List Side) :
    let events := (run schedule (new buffer producer consumer)).1
    let r := (run schedule (new buffer producer consumer)).2
    let writing := heldForWriting events
    let reading := heldForReading events
    r.buffer.word.openCount = (writing.toList ++ reading.toList).length ∧
      (r.producer.phase.openCell = writing ∧ r.consumer.phase.openCell = reading) ∧
      (∀ c ∈ writing, c = r.buffer.word.back) ∧
      (∀ c ∈ reading, c = r.buffer.word.front ∧ r.buffer.word.isFresh c = true) ∧
      (∀ c ∈ writing, c ∉ reading) ∧
      ∀ side event next, r.step? side = some (event, next) → writing ≠ none ∨ reading ≠ none →
        next.buffer.word.back = r.buffer.word.back := by
  intro events r writing reading
  have coherent : r.IsCoherent := isCoherent_run buffer producer consumer schedule
  have held : r.producer.phase.openCell = writing ∧ r.consumer.phase.openCell = reading :=
    openCell_run buffer producer consumer schedule
  have count : r.buffer.word.openCount = (writing.toList ++ reading.toList).length := by
    rw [← held.1, ← held.2]
    exact coherent.count
  have at_back : ∀ c ∈ writing, c = r.buffer.word.back := by
    intro c among
    exact coherent.writer.openCell (held.1.trans among)
  have at_front : ∀ c ∈ reading, c = r.buffer.word.front ∧ r.buffer.word.isFresh c = true := by
    intro c among
    have fits := coherent.reader.openCell (held.2.trans among)
    rw [Word.fresh_fields] at fits
    exact fits
  refine ⟨count, held, at_back, at_front, ?_, ?_⟩
  · intro c written read
    exact Cell.other_ne _ ((at_front c read).1.symm.trans (at_back c written))
  · intro side event next moved busy
    apply (coherent.move moved).back
    rw [count]
    rcases busy with busy | busy
    · obtain ⟨c, holds⟩ := Option.ne_none_iff_exists'.mp busy
      simp [holds]
    · obtain ⟨c, holds⟩ := Option.ne_none_iff_exists'.mp busy
      simp [holds]

end Handover.Race
