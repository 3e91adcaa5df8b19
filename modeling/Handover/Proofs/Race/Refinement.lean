import Handover.Proofs.Race.Exclusion
import Handover.Proofs.Word.Regions

/-!
# Races on separate fields

An access changes the word by adding or subtracting a whole word, or puts another word in its place.
`Board` is the machine that the accesses stand for: it keeps the fields apart, and refuses an access
that the fields do not allow.  Every race is a run of this machine, access by access.  Hence nothing
is ever carried from one field into the next, not even when a publication applies an addend that was
computed long before, and a flag is set and cleared by the accesses meant to do so and no others.
-/

namespace Handover.Race

variable {α : Type}

/-! ## The machine -/

/-- The fields of the word, each on its own, and the cell to which the consumer has an access. -/
structure Board where
  /-- The fields of the word. -/
  fields : Fields
  /-- Cell to which the consumer has an access open. -/
  reading : Option Cell
  deriving DecidableEq

namespace Board

/-- Whether the fields allow an access. -/
def allows (m : Board) : Side → Action → Bool
  | _, .enter => m.fields.openCount < 2
  | _, .exchange true => m.fields.openCount = 0
  | .producer, .publish => 0 < m.fields.openCount
  | .consumer, .release => 0 < m.fields.openCount ∧ m.reading.isSome
  | .producer, .release | .producer, .poll => false
  | .consumer, .publish | .consumer, .prepare | .consumer, .resume => false
  | _, _ => true

/-- The fields after an access. -/
def fieldsAfter (m : Board) : Side → Action → Fields
  | _, .enter => m.fields.entered
  | .producer, .publish => m.fields.published
  | .consumer, .release => m.reading.elim m.fields m.fields.released
  | .producer, .exchange true => m.fields.presented
  | .consumer, .exchange true => m.fields.turned
  | _, _ => m.fields

/-- Cell to which the consumer has an access open after an access of either side. -/
def readingAfter (m : Board) : Side → Action → Option Cell
  | .consumer, .enter => some m.fields.front
  | .consumer, .release => none
  | _, _ => m.reading

/-- Make an access, if the fields allow it. -/
def step? (m : Board) (side : Side) (action : Action) : Option Board :=
  if m.allows side action then some ⟨m.fieldsAfter side action, m.readingAfter side action⟩
  else none

/-- Make accesses in order, if the fields allow each of them. -/
def follow : List (Side × Action) → Board → Option Board
  | [], m => some m
  | (side, action) :: rest, m => (m.step? side action).bind (follow rest)

theorem follow_append (first second : List (Side × Action)) (m : Board) :
    follow (first ++ second) m = (follow first m).bind (follow second) := by
  induction first generalizing m with
  | nil => rfl
  | cons made rest induction =>
      simp only [List.cons_append, follow, Option.bind_assoc]
      congr 1
      funext next
      exact induction next

section

variable {m next : Board} {side : Side} {action : Action} {c : Cell}

theorem step?_eq_some (allowed : m.allows side action = true)
    (fields : next.fields = m.fieldsAfter side action)
    (reading : next.reading = m.readingAfter side action) :
    m.step? side action = some next := by
  rw [step?, if_pos allowed, ← fields, ← reading]

theorem fields_of_step? (stepped : m.step? side action = some next) :
    next.fields = m.fieldsAfter side action := by
  unfold step? at stepped
  split at stepped
  · cases stepped
    rfl
  · cases stepped

/-- No access touches the bits above the fields. -/
theorem spare_fieldsAfter : (m.fieldsAfter side action).spare = m.fields.spare := by
  unfold fieldsAfter
  split
  case h_3 => cases m.reading <;> rfl
  all_goals rfl

/-- A flag is set by a publication alone, and it is that of the back cell. -/
theorem eq_publish_of_set (stepped : m.step? side action = some next)
    (before : m.fields.fresh.get c = false) (after : next.fields.fresh.get c = true) :
    side = .producer ∧ action = .publish ∧ c = m.fields.back := by
  have unchanged : ¬ m.fields.fresh.get c = true := by simp [before]
  rw [fields_of_step? stepped] at after
  unfold fieldsAfter at after
  split at after
  case h_2 =>
    refine ⟨rfl, rfl, ?_⟩
    by_contra other
    exact unchanged ((Fields.get_fresh_published_of_ne other).symm.trans after)
  case h_3 =>
    cases reading : m.reading with
    | none =>
        rw [reading] at after
        exact absurd after unchanged
    | some d =>
        rw [reading] at after
        by_cases same : c = d
        · subst same
          exact absurd ((Fields.get_fresh_released c).symm.trans after) Bool.false_ne_true
        · exact absurd ((Fields.get_fresh_released_of_ne same).symm.trans after) unchanged
  case h_4 =>
    by_cases same : c = m.fields.front
    · subst same
      exact absurd (Fields.get_fresh_presented.symm.trans after) Bool.false_ne_true
    · exact absurd ((Fields.get_fresh_presented_of_ne same).symm.trans after) unchanged
  all_goals exact absurd after unchanged

/-- A flag is cleared by the exchange of the producer, and it is that of the new back cell, or by the
end of a read access, and it is that of the cell that was read. -/
theorem eq_exchange_or_release_of_cleared (stepped : m.step? side action = some next)
    (before : m.fields.fresh.get c = true) (after : next.fields.fresh.get c = false) :
    side = .producer ∧ action = .exchange true ∧ c = next.fields.back ∨
      side = .consumer ∧ action = .release ∧ m.reading = some c := by
  have unchanged : ¬ m.fields.fresh.get c = false := by simp [before]
  rw [fields_of_step? stepped] at after ⊢
  unfold fieldsAfter at after ⊢
  split at after
  case h_2 =>
    by_cases same : c = m.fields.back
    · subst same
      exact absurd (after.symm.trans Fields.get_fresh_published) Bool.false_ne_true
    · exact absurd ((Fields.get_fresh_published_of_ne same).symm.trans after) unchanged
  case h_3 =>
    cases reading : m.reading with
    | none =>
        rw [reading] at after
        exact absurd after unchanged
    | some d =>
        rw [reading] at after
        by_cases same : c = d
        · exact .inr ⟨rfl, rfl, congrArg some same.symm⟩
        · exact absurd ((Fields.get_fresh_released_of_ne same).symm.trans after) unchanged
  case h_4 =>
    refine .inl ⟨rfl, rfl, ?_⟩
    by_contra other
    exact unchanged ((Fields.get_fresh_presented_of_ne other).symm.trans after)
  all_goals exact absurd after unchanged

end

end Board

/-! ## Races as runs of the machine -/

/-- The fields of the word, and the cell that the consumer has open. -/
def board (r : Race α) : Board :=
  ⟨r.buffer.word.fields, r.consumer.phase.openCell⟩

section

variable {b after : Buffer α} {writer : WritePhase α} {reader : ReadPhase α} {action : Action}

/-- An access of the producer moves the fields as the machine does. -/
theorem Coherent.step?_write {next : WritePhase α}
    (coherent : Coherent b.word.fields writer reader)
    (move : WriteMove b writer after next action) :
    (⟨b.word.fields, reader.openCell⟩ : Board).step? .producer action =
      some ⟨after.word.fields, reader.openCell⟩ := by
  cases move with
  | look same stays | prepare began same goes | miss began missed same goes =>
      exact Board.step?_eq_some rfl (by rw [same]; rfl) rfl
  | resume began word value cells fills =>
      exact Board.step?_eq_some rfl (by rw [word]; rfl) rfl
  | enter began word value cells fills =>
      have room := coherent.room_to_write (congrArg WritePhase.openCell began)
      exact Board.step?_eq_some (decide_eq_true room) word rfl
  | publish began word cells goes =>
      have busy : 0 < b.word.fields.openCount := by
        rw [coherent.count, began]
        simp [WritePhase.openCell]
      exact Board.step?_eq_some (decide_eq_true busy) word rfl
  | present began vacant fresh word cells goes =>
      exact Board.step?_eq_some (decide_eq_true vacant) word rfl

/-- An access of the consumer moves the fields as the machine does. -/
theorem Coherent.step?_read {next : ReadPhase α} {told : List (Answer α)}
    (coherent : Coherent b.word.fields writer reader)
    (move : ReadMove b reader after next told action) :
    (⟨b.word.fields, reader.openCell⟩ : Board).step? .consumer action =
      some ⟨after.word.fields, next.openCell⟩ := by
  have reading := move.openCell
  cases move with
  | look began same | pollEmpty began empty same | pollReady began ready same
  | miss began missed same =>
      exact Board.step?_eq_some rfl (by rw [same]; rfl) reading
  | lookOn began word quiet tells uses =>
      exact Board.step?_eq_some rfl (by rw [word]; rfl) reading
  | enter began word uses tells =>
      have room := coherent.room_to_read (congrArg ReadPhase.openCell began)
      exact Board.step?_eq_some (decide_eq_true room) word uses.openCell
  | release began word cells goes silent =>
      have busy : 0 < b.word.fields.openCount := by
        rw [coherent.count, began]
        simp [ReadPhase.openCell]
      rw [began]
      exact Board.step?_eq_some (decide_eq_true ⟨busy, rfl⟩) word reading
  | turn began vacant fresh drained word cells goes silent =>
      exact Board.step?_eq_some (decide_eq_true vacant) word reading

end

theorem IsCoherent.step?_board {r next : Race α} {event : Event} (coherent : r.IsCoherent)
    (move : Move r next event) : r.board.step? event.side event.action = some next.board := by
  cases move with
  | producer kept move =>
      rw [board, board, kept]
      exact Coherent.step?_write coherent move
  | consumer kept known move => exact Coherent.step?_read coherent move

/-! ## Arithmetic on whole words -/

/-- The word that an access makes of the one it finds, given the addend in the hands of the producer
and the cell to which the consumer has an access open. -/
def Event.made (addend : UInt64) (reading : Option Cell) (e : Event) : Word :=
  match e.side, e.action with
  | _, .enter => ⟨e.before.bits + Word.oneAccess⟩
  | .producer, .publish => ⟨e.before.bits + addend⟩
  | .consumer, .release => ⟨e.before.bits - (reading.elim 0 Cell.flag ||| Word.oneAccess)⟩
  | .producer, .exchange true => e.before.presented
  | .consumer, .exchange true => e.before.turned
  | _, _ => e.before

/-- The addend in the hands of the producer after an event, given the one before. -/
def Event.addendAfter (addend : UInt64) (e : Event) : UInt64 :=
  match e.side, e.action with
  | .producer, .prepare => e.before.publishAddend
  | _, _ => addend

/-- The addend that the producer computed when it last looked at the word for one. -/
def preparedAddend (events : List Event) : UInt64 :=
  events.foldl Event.addendAfter 0

/-- An addend that waits to be applied is the one computed last. -/
def WritePhase.Prepared (writer : WritePhase α) (past : List Event) : Prop :=
  ∀ c addend answer, writer = .publishing c addend answer → addend = preparedAddend past

section

variable {b after : Buffer α} {writer : WritePhase α} {reader : ReadPhase α} {action : Action}
  {past : List Event}

theorem WriteMove.prepared {next : WritePhase α} (move : WriteMove b writer after next action)
    (prepared : writer.Prepared past) :
    next.Prepared (past ++ [⟨.producer, action, b.word, after.word⟩]) := by
  intro c addend answer waits
  rw [preparedAddend, List.foldl_append]
  cases move with
  | look same stays => exact prepared c addend answer (stays.symm.trans waits)
  | enter began word value cells fills | resume began word value cells fills =>
      rcases fills with rfl | ⟨told, rfl⟩ <;> cases waits
  | prepare began same goes =>
      cases goes.symm.trans waits
      exact b.word.publishAddend_fields
  | publish began word cells goes =>
      rcases goes with ⟨-, rfl⟩ | ⟨-, rfl⟩ <;> cases waits
  | present began vacant fresh word cells goes => cases goes.symm.trans waits
  | miss began missed same goes => cases goes.symm.trans waits

/-- The producer adds, or puts in place, whole words, among them the addend it computed before. -/
theorem Coherent.made_write {next : WritePhase α} (coherent : Coherent b.word.fields writer reader)
    (prepared : writer.Prepared past) (move : WriteMove b writer after next action) :
    after.word = Event.made (preparedAddend past) reader.openCell
      ⟨.producer, action, b.word, after.word⟩ := by
  cases move with
  | look same stays | prepare began same goes | miss began missed same goes => rw [same]; rfl
  | resume began word value cells fills => exact word
  | enter began word value cells fills =>
      have room : b.word.openCount < 2 :=
        coherent.room_to_write (congrArg WritePhase.openCell began)
      exact Word.fields_injective (word.trans (Word.fields_entered (by omega)).symm)
  | @publish c addend answer began word cells goes =>
      have busy : 0 < b.word.openCount := by
        rw [← Word.openCount_fields, coherent.count, began]
        simp [WritePhase.openCell]
      have fits := coherent.writer
      rw [began] at fits
      -- The addend was computed before, and would still be the same now.
      have current : preparedAddend past = b.word.publishAddend := by
        rw [← prepared c addend answer began, ← Word.publishAddend_fields]
        exact fits.2
      rw [Event.made, current]
      exact Word.fields_injective (word.trans (Word.fields_publish busy).symm)
  | present began vacant fresh word cells goes =>
      exact Word.fields_injective (word.trans (Word.fields_presented _).symm)

/-- The consumer adds, subtracts, or puts in place, whole words. -/
theorem Coherent.made_read {next : ReadPhase α} {told : List (Answer α)}
    (coherent : Coherent b.word.fields writer reader)
    (move : ReadMove b reader after next told action) (addend : UInt64) :
    after.word = Event.made addend reader.openCell ⟨.consumer, action, b.word, after.word⟩ := by
  cases move with
  | look began same | pollEmpty began empty same | pollReady began ready same
  | miss began missed same => rw [same]; rfl
  | lookOn began word quiet tells uses => exact word
  | enter began word uses tells =>
      have room : b.word.openCount < 2 := coherent.room_to_read (congrArg ReadPhase.openCell began)
      exact Word.fields_injective (word.trans (Word.fields_entered (by omega)).symm)
  | @release c answer began word cells goes silent =>
      have busy : 0 < b.word.openCount := by
        rw [← Word.openCount_fields, coherent.count, began]
        simp [ReadPhase.openCell]
      have stands := coherent.reader
      rw [began] at stands
      have fresh : b.word.isFresh c = true := (b.word.fresh_fields c).symm.trans stands.2
      rw [began]
      exact Word.fields_injective (word.trans (Word.fields_release busy fresh).symm)
  | turn began vacant fresh drained word cells goes silent =>
      exact Word.fields_injective (word.trans (Word.fields_turned _).symm)

end

/-! ## Runs -/

/-- A race, the trace that led to it, and the machine on separate fields agree. -/
structure Followed (start : Board) (past : List Event) (r : Race α) : Prop where
  coherent : r.IsCoherent
  follows : start.follow (past.map fun e => (e.side, e.action)) = some r.board
  spare : r.buffer.word.spare = start.fields.spare
  prepared : r.producer.phase.Prepared past

theorem Followed.step {start : Board} {past : List Event} {r next : Race α} {event : Event}
    (followed : Followed start past r) (move : Move r next event) :
    Followed start (past ++ [event]) next := by
  obtain ⟨coherent, follows, spare, prepared⟩ := followed
  have stepped := coherent.step?_board move
  refine ⟨coherent.step move, ?_, ?_, ?_⟩
  · rw [List.map_append, Board.follow_append, follows]
    simp only [List.map_cons, List.map_nil, Option.bind_some, Board.follow, stepped]
  · rw [← spare]
    exact (congrArg Fields.spare (Board.fields_of_step? stepped)).trans Board.spare_fieldsAfter
  · cases move with
    | producer kept move => exact move.prepared prepared
    | consumer kept known move =>
        intro c addend answer waits
        rw [kept] at waits
        rw [preparedAddend, List.foldl_append]
        exact prepared c addend answer waits

theorem followed_run [Add α] (buffer : Buffer α) (producer : List (Task (Put α)))
    (consumer : List (Task (Take α))) (schedule : List Side) :
    Followed (new buffer producer consumer).board
      (run schedule (new buffer producer consumer)).1
      (run schedule (new buffer producer consumer)).2 := by
  have start : Followed (new buffer producer consumer).board [] (new buffer producer consumer) :=
    ⟨isCoherent_new buffer producer consumer, rfl, rfl, nofun⟩
  have kept := recount_induction
    (motive := fun r past => Followed (new buffer producer consumer).board past r)
    (fun past _ event _ => past ++ [event])
    (fun followed moved => followed.step (followed.coherent.move moved)) schedule [] start
  rw [recount_events, List.nil_append] at kept
  exact kept

theorem Followed.made {start : Board} {past : List Event} {r next : Race α} {event : Event}
    (followed : Followed start past r) (move : Move r next event) :
    event.after = event.made (preparedAddend past) r.consumer.phase.openCell := by
  cases move with
  | producer kept move => exact Coherent.made_write followed.coherent followed.prepared move
  | consumer kept known move => exact Coherent.made_read followed.coherent move _

/-- An event tells the word that was found and the word that was left. -/
theorem Move.words {r next : Race α} {event : Event} (move : Move r next event) :
    event.before = r.buffer.word ∧ event.after = next.buffer.word := by
  cases move <;> exact ⟨rfl, rfl⟩

/-- Every race is a run of the machine on separate fields, from whatever word it is begun: each
access makes the word it leaves by arithmetic on whole words, a publication with the addend that was
computed at an earlier look, and thereby moves the fields just as the machine does.  The bits above
the fields stay.  A flag is set by a publication alone, and cleared by the exchange of the producer,
for the new back cell, or by the end of a read access, for the cell that was read. -/
theorem word_refines_fields [Add α] (buffer : Buffer α) (producer : List (Task (Put α)))
    (consumer : List (Task (Take α))) (schedule : List Side) :
    let start := new buffer producer consumer
    let events := (run schedule start).1
    let r := (run schedule start).2
    start.board.follow (events.map fun e => (e.side, e.action)) = some r.board ∧
      r.buffer.word.spare = buffer.word.spare ∧
      ∀ side event next, r.step? side = some (event, next) →
        (event.before = r.buffer.word ∧ event.after = next.buffer.word) ∧
        event.after = event.made (preparedAddend events) r.consumer.phase.openCell ∧
        r.board.step? side event.action = some next.board ∧
        ∀ c,
          (event.before.isFresh c = false → event.after.isFresh c = true →
            side = .producer ∧ event.action = .publish ∧ c = event.before.back) ∧
          (event.before.isFresh c = true → event.after.isFresh c = false →
            side = .producer ∧ event.action = .exchange true ∧ c = event.after.back ∨
              side = .consumer ∧ event.action = .release ∧ r.consumer.phase.openCell = some c) := by
  intro start events r
  have followed : Followed start.board events r := followed_run buffer producer consumer schedule
  have spare : r.buffer.word.spare = buffer.word.spare := by
    rw [followed.spare]
    exact (congrArg Fields.spare buffer.word.fields_atRest).trans Fields.spare_atRest
  refine ⟨followed.follows, spare, ?_⟩
  intro side event next moved
  have move := followed.coherent.move moved
  have stepped := followed.coherent.step?_board move
  obtain rfl := side_of_step? moved
  have words := move.words
  refine ⟨words, followed.made move, stepped, ?_⟩
  intro c
  rw [words.1, words.2, ← Word.fresh_fields, ← Word.fresh_fields]
  exact ⟨Board.eq_publish_of_set stepped, Board.eq_exchange_or_release_of_cleared stepped⟩

/-- Two writes and a read. -/
def overlapping : Race Nat :=
  new (.new 0) [.access (.write 1), .access (.write 2)] [.access .read]

/-- The read ends after the second write computed its addend, and before it applies it. -/
def outdated : List Side :=
  List.replicate 4 .producer ++ List.replicate 2 .consumer ++ List.replicate 2 .producer ++
    [.consumer]

theorem word_refines_fields_outdated :
    ∃ event next, (run outdated overlapping).2.step? .producer = some (event, next) ∧
      event.action = .publish ∧ event.before.openCount = 1 ∧
      event.after.bits = event.before.bits + preparedAddend (run outdated overlapping).1 ∧
      (run outdated overlapping).2.board.step? .producer .publish = some next.board := by
  have moved := (Option.some_get (by decide +kernel :
    ((run outdated overlapping).2.step? .producer).isSome = true)).symm
  obtain ⟨-, -, refines⟩ := word_refines_fields (.new 0) _ _ outdated
  obtain ⟨-, -, stepped, -⟩ := refines _ _ _ moved
  exact ⟨_, _, moved, by decide +kernel, by decide +kernel, by decide +kernel, stepped⟩

end Handover.Race
