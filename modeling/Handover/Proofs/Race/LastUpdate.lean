import Handover.Proofs.Race.Delivery

/-!
# The last update

Each side attempts an exchange that it owes only once.  Still the last value to be published is not
lost: while nobody is inside and the back cell is fresh, one of the sides owes an exchange of the
very word that is there.  A side whose exchange fails was overtaken by another access, and whoever
leaves last after that access owes an exchange anew.
-/

namespace Handover.Race

variable {α : Type}

/-! ## Exchanges that are owed -/

/-- The producer is about to exchange this word. -/
def WritePhase.Exchanges (w : Word) (writer : WritePhase α) : Prop :=
  ∃ owed answer, writer = .exchanging owed answer ∧ owed.expected = w

/-- The consumer is about to exchange this word. -/
def ReadPhase.Exchanges (w : Word) (reader : ReadPhase α) : Prop :=
  ∃ owed answer, reader = .exchanging owed answer ∧ owed.expected = w

/-- When nobody is inside and the back cell is fresh, a side is about to exchange the word. -/
def Attended (w : Word) (writer : WritePhase α) (reader : ReadPhase α) : Prop :=
  w.openCount = 0 → w.isFresh w.back = true → writer.Exchanges w ∨ reader.Exchanges w

theorem Attended.by_reader {w : Word} {writer next : WritePhase α} {reader : ReadPhase α}
    (attended : Attended w writer reader) (other : ¬ writer.Exchanges w) :
    Attended w next reader :=
  fun vacant fresh => .inr ((attended vacant fresh).resolve_left other)

theorem Attended.by_writer {w : Word} {writer : WritePhase α} {reader next : ReadPhase α}
    (attended : Attended w writer reader) (other : ¬ reader.Exchanges w) :
    Attended w writer next :=
  fun vacant fresh => .inl ((attended vacant fresh).resolve_right other)

theorem Attended.write {b after : Buffer α} {writer next : WritePhase α} {reader : ReadPhase α}
    {action : Action} (attended : Attended b.word writer reader)
    (move : WriteMove b writer after next action) : Attended after.word next reader := by
  cases move with
  | look same stays =>
      rw [same, stays]
      exact attended
  | enter began word value cells fills =>
      intro vacant _
      have opened : after.word.openCount = b.word.openCount + 1 := congrArg Fields.openCount word
      omega
  | resume began word value cells fills =>
      rw [word]
      apply attended.by_reader
      rw [began]
      rintro ⟨owed, answer, ⟨⟩, -⟩
  | prepare began same goes =>
      rw [same]
      apply attended.by_reader
      rw [began]
      rintro ⟨owed, answer, ⟨⟩, -⟩
  | publish began word cells goes =>
      intro vacant _
      rcases goes with ⟨busy, -⟩ | ⟨-, goes⟩
      · omega
      · exact .inl ⟨_, _, goes, rfl⟩
  | present began vacant there word cells goes =>
      intro _ fresh
      have cleared : after.word.fields.fresh.get after.word.fields.back = false := by
        rw [word]
        exact Fields.get_fresh_presented
      rw [Word.fresh_fields, Word.back_fields, fresh] at cleared
      cases cleared
  | miss began missed same goes =>
      rw [same]
      apply attended.by_reader
      rw [began]
      rintro ⟨owed, answer, ⟨⟩, expected⟩
      exact missed expected.symm

theorem Attended.read {b after : Buffer α} {writer : WritePhase α} {reader next : ReadPhase α}
    {told : List (Answer α)} {action : Action} (attended : Attended b.word writer reader)
    (move : ReadMove b reader after next told action) : Attended after.word writer next := by
  cases move with
  | look began same goes quiet tells =>
      rw [same, goes, ← began]
      exact attended
  | lookOn began word quiet tells uses =>
      rw [word]
      apply attended.by_writer
      rw [began]
      rintro ⟨owed, answer, ⟨⟩, -⟩
  | pollEmpty began empty same goes tells =>
      rw [same, goes, ← began]
      exact attended
  | pollReady began ready same goes silent =>
      rw [same]
      apply attended.by_writer
      rw [began]
      rintro ⟨owed, answer, ⟨⟩, -⟩
  | enter began word uses tells =>
      intro vacant _
      have opened : after.word.openCount = b.word.openCount + 1 := congrArg Fields.openCount word
      omega
  | release began word cells goes silent =>
      intro vacant fresh
      rcases goes with ⟨kept, -⟩ | ⟨-, goes⟩
      · exact absurd ⟨vacant, fresh⟩ kept
      · exact .inr ⟨_, _, goes, rfl⟩
  | turn began vacant there drained word cells goes silent =>
      intro _ fresh
      have back : after.word.back = b.word.front := congrArg Fields.back word
      rw [← Word.fresh_fields, back, word] at fresh
      have cleared : b.word.fields.turned.fresh.get b.word.front = false :=
        (b.word.fresh_fields _).trans drained
      exact absurd (cleared.symm.trans fresh) Bool.false_ne_true
  | miss began missed same goes silent =>
      rw [same]
      apply attended.by_writer
      rw [began]
      rintro ⟨owed, answer, ⟨⟩, expected⟩
      exact missed expected.symm

theorem Attended.step {r next : Race α} {event : Event}
    (attended : Attended r.buffer.word r.producer.phase r.consumer.phase)
    (move : Move r next event) :
    Attended next.buffer.word next.producer.phase next.consumer.phase := by
  cases move with
  | producer kept move =>
      rw [kept]
      exact attended.write move
  | consumer kept known move =>
      rw [kept]
      exact attended.read move

theorem attended_new (initial : α) (producer : List (Task (Put α)))
    (consumer : List (Task (Take α))) :
    let r := new (.new initial) producer consumer
    Attended r.buffer.word r.producer.phase r.consumer.phase := by
  intro r _ fresh
  have marked : Word.initial.atRest.fields.fresh.get Word.initial.atRest.back = true :=
    (Word.fresh_fields _ _).trans fresh
  exact absurd ((fresh_initial _).symm.trans marked) Bool.false_ne_true

theorem attended_run [Add α] (initial : α) (producer : List (Task (Put α)))
    (consumer : List (Task (Take α))) (schedule : List Side) :
    let r := (run schedule (new (.new initial) producer consumer)).2
    Attended r.buffer.word r.producer.phase r.consumer.phase := by
  refine (recount_induction (motive := fun r _ => r.IsCoherent ∧
    Attended r.buffer.word r.producer.phase r.consumer.phase) (fun _ _ _ _ => ()) ?_ schedule ()
    ⟨isCoherent_new _ _ _, attended_new initial producer consumer⟩).2
  rintro r _ side event next ⟨coherent, attended⟩ moved
  have move := coherent.move moved
  exact ⟨coherent.step move, attended.step move⟩

/-! ## Races that have ended -/

/-- Both programs were run to their ends, and no access is left open. -/
structure Finished [Add α] (r : Race α) : Prop where
  ended : ∀ side, r.step? side = none
  written : r.producer.phase.openCell = none
  read : r.consumer.phase.openCell = none

theorem Finished.idle [Add α] {r : Race α} (finished : r.Finished) (coherent : r.IsCoherent) :
    (r.producer.phase = .idle ∧ r.producer.program = []) ∧
      r.consumer.phase = .idle ∧ r.consumer.program = [] := by
  obtain ⟨b, ⟨written, writer, _⟩, ⟨read, reader, _⟩⟩ := r
  obtain ⟨ended, no_write, no_read⟩ := finished
  have wrote := ended .producer
  have took := ended .consumer
  have stands := coherent.writer
  have reads := coherent.reader
  constructor
  · cases writer with
    | idle =>
        cases written with
        | nil => exact ⟨rfl, rfl⟩
        | cons task rest => simp [step?, Producer.step?] at wrote
    | leaked c | filled c answer | publishing c addend answer => cases no_write
    | exchanging owed answer => simp [step?, Producer.step?] at wrote
    | stopped fault => exact stands.elim
  · cases reader with
    | idle =>
        cases read with
        | nil => exact ⟨rfl, rfl⟩
        | cons task rest =>
            cases task <;> simp [step?, Consumer.step?, Consumer.lookAnswer?] at took
    | leaked c | releasing c answer => cases no_read
    | entering how | exchanging owed answer => simp [step?, Consumer.step?] at took
    | stopped fault => exact reads.elim

/-- The race goes on with one more read. -/
def readOnce (r : Race α) : Race α :=
  { r with consumer := { r.consumer with program := [.access .read] } }

theorem answers_readOnce [Add α] {r : Race α} (vacant : r.buffer.word.openCount = 0)
    (done : r.producer.phase = .idle ∧ r.producer.program = [])
    (resting : r.consumer.phase = .idle) :
    (r.readOnce.play []).2.consumer.answers = r.consumer.answers ++ [.entry
      (if r.buffer.word.isReady then some (r.buffer.load r.buffer.word.front) else none)] := by
  obtain ⟨b, ⟨written, writer, wrote⟩, ⟨read, reader, answers⟩⟩ := r
  obtain ⟨rfl, rfl⟩ := done
  obtain rfl : reader = .idle := resting
  change (run [.consumer, .consumer, .consumer, .consumer] _).2.consumer.answers = _
  cases ready : b.word.isReady with
  | false =>
      simp [run, readOnce, step?, Consumer.step?, Consumer.poll, Consumer.finish, ready]
  | true =>
      have vacant : b.word.openCount = 0 := vacant
      have effect := Word.fields_entered (w := b.word) (by omega)
      have busy : 0 < b.word.entered.openCount := by
        have opened : b.word.entered.openCount = b.word.openCount + 1 :=
          congrArg Fields.openCount effect
        omega
      have fresh : b.word.entered.isFresh b.word.front = true := by
        rw [← Word.fresh_fields, effect]
        exact (b.word.fresh_fields _).trans ready
      have entered := Word.enterRead_eq (w := b.word) (by omega) ready
      obtain ⟨left, -, released⟩ := Word.release_eq busy fresh
      by_cases owing : left.openCount = 0 ∧ left.isFresh left.back
      · simp [run, readOnce, step?, Consumer.step?, Consumer.poll, Consumer.finish, ready,
          Consumer.enter, entered, Consumer.resume, Consumer.release, released,
          Word.owedByConsumer, owing, Consumer.exchange, Buffer.load]
      · simp [run, readOnce, step?, Consumer.step?, Consumer.poll, Consumer.finish, ready,
          Consumer.enter, entered, Consumer.resume, Consumer.release, released,
          Word.owedByConsumer, owing, Buffer.load]

namespace History

variable {h : History α}

theorem valueAt_count : h.valueAt h.count = h.published.getLast? := by
  obtain ⟨published, latest, reads⟩ := h
  rw [List.getLast?_eq_getElem?]
  cases published with
  | nil => rfl
  | cons value values => rfl

theorem not_consumed {reading : Option Cell} {known : List (Answer α)}
    (answered : h.Answered reading known) (unread : h.lastRead < h.count) : ¬ h.Consumed := by
  rintro ⟨newest, among, number, -⟩
  have bounded := answered.number_le newest among
  omega

/-- With no access open, what was read was consumed. -/
theorem consumed_of_lastRead {known : List (Answer α)} (answered : h.Answered none known)
    (read : h.lastRead = h.count) (published : h.published ≠ []) : h.Consumed := by
  have positive : 0 < h.count := List.length_pos_iff.mpr published
  have ended := answered.ended rfl
  unfold lastRead at read
  split at read
  · omega
  · next newest older reads =>
    have among : newest ∈ h.reads := by
      rw [reads]
      exact List.mem_cons_self
    exact ⟨newest, among, read, ended newest among⟩

end History

/-- Once both programs have ended and no access is open, the last value to be published is in the
front cell, and fresh there, just as long as it was not consumed. -/
theorem Recorded.at_end {h : History α} {r : Race α} (recorded : Recorded h r)
    (attended : Attended r.buffer.word r.producer.phase r.consumer.phase)
    (wrote : r.producer.phase = .idle) (took : r.consumer.phase = .idle) :
    (r.buffer.word.openCount = 0 ∧ r.buffer.word.isFresh r.buffer.word.back = false) ∧
      (r.buffer.word.isReady = true ↔ h.published ≠ [] ∧ ¬ h.Consumed) ∧
      (r.buffer.word.isReady = true →
        h.published.getLast? = some (r.buffer.load r.buffer.word.front)) := by
  obtain ⟨coherent, tally, stored, answered⟩ := recorded
  have count := coherent.count
  rw [wrote, took] at count attended stored
  rw [took] at tally answered
  have vacant : r.buffer.word.openCount = 0 := count
  have settled : r.buffer.word.isFresh r.buffer.word.back = false := by
    rw [← Bool.not_eq_true]
    intro fresh
    rcases attended vacant fresh with ⟨owed, answer, ⟨⟩, -⟩ | ⟨owed, answer, ⟨⟩, -⟩
  have behind : r.buffer.word.fields.fresh.get r.buffer.word.fields.back = false :=
    (Word.fresh_fields _ _).trans settled
  have in_front (ready : r.buffer.word.isReady = true) :
      h.lastRead < h.count ∧ h.valueAt h.count = some (r.buffer.load r.buffer.word.front) := by
    have fresh : r.buffer.word.fields.fresh.get r.buffer.word.fields.front = true :=
      (Word.fresh_fields _ _).trans ready
    have closed : none ≠ some r.buffer.word.fields.front := (Option.some_ne_none _).symm
    rw [← tally.front behind fresh]
    exact ⟨tally.unread _ fresh closed, stored _ fresh closed closed⟩
  refine ⟨⟨vacant, settled⟩, ⟨?_, ?_⟩, ?_⟩
  · intro ready
    have unread := (in_front ready).1
    exact ⟨List.length_pos_iff.mp (Nat.zero_lt_of_lt unread), History.not_consumed answered unread⟩
  · rintro ⟨published, kept⟩
    by_contra missing
    have drained : r.buffer.word.fields.fresh.get r.buffer.word.fields.front = false :=
      (Word.fresh_fields _ _).trans (Bool.eq_false_of_not_eq_true missing)
    exact kept (History.consumed_of_lastRead answered (tally.drained behind drained) published)
  · intro ready
    rw [← History.valueAt_count]
    exact (in_front ready).2

/-- When a race has ended with no access open, nothing waits in the back cell, and one more read
delivers the last value to be published, unless it was consumed, whichever exchanges failed. -/
theorem last_update_kept [Add α] (initial : α) (producer : List (Task (Put α)))
    (consumer : List (Task (Take α))) (schedule : List Side)
    (finished : (run schedule (new (.new initial) producer consumer)).2.Finished) :
    let r := (run schedule (new (.new initial) producer consumer)).2
    let h := history schedule (new (.new initial) producer consumer)
    let front := r.buffer.word.front
    (r.buffer.word.openCount = 0 ∧ r.buffer.word.isFresh r.buffer.word.back = false) ∧
      (r.buffer.word.isFresh front = true ↔ h.published ≠ [] ∧ ¬ h.Consumed) ∧
      (r.buffer.word.isFresh front = true → h.published.getLast? = some (r.buffer.load front)) ∧
      (r.readOnce.play []).2.consumer.answers =
        r.consumer.answers ++ [.entry (if h.Consumed then none else h.published.getLast?)] := by
  intro r h front
  have recorded : Recorded h r := recorded_history initial producer consumer schedule
  obtain ⟨wrote, took⟩ := finished.idle recorded.coherent
  have at_end := recorded.at_end (attended_run initial producer consumer schedule) wrote.1 took.1
  obtain ⟨⟨vacant, settled⟩, fresh_iff, newest⟩ := at_end
  refine ⟨⟨vacant, settled⟩, fresh_iff, newest, ?_⟩
  rw [answers_readOnce vacant wrote took.1]
  congr 3
  by_cases ready : r.buffer.word.isReady = true
  · rw [if_pos ready, if_neg (fresh_iff.mp ready).2]
    exact (newest ready).symm
  · rw [if_neg ready]
    split
    · rfl
    · next kept =>
      have published : h.published = [] := by
        by_contra some_published
        exact ready (fresh_iff.mpr ⟨some_published, kept⟩)
      rw [published]
      rfl

/-- Three writes and a read. -/
def threeWrites : Race Nat :=
  new (.new 0) [.access (.write 1), .access (.write 2), .access (.write 3)] [.access .read]

/-- The read comes in before the second write was presented, and the third write before the exchange
that the read then owes: both sides fail an exchange. -/
def overtaking : List Side :=
  List.replicate 7 .producer ++
    [.consumer, .consumer, .producer, .consumer, .producer, .consumer] ++ List.replicate 3 .producer

theorem last_update_kept_overtaking :
    (run overtaking threeWrites).1.countP (fun e => e.action = .exchange false) = 2 ∧
      (run overtaking threeWrites).2.consumer.answers = [.entry (some 1)] ∧
      ((run overtaking threeWrites).2.readOnce.play []).2.consumer.answers =
        [.entry (some 1), .entry (some 3)] := by
  have finished : (run overtaking threeWrites).2.Finished :=
    ⟨by rintro (_ | _) <;> decide +kernel, by decide +kernel, by decide +kernel⟩
  have answers := (last_update_kept 0 _ _ overtaking finished).2.2.2
  exact ⟨by decide +kernel, by decide +kernel, answers.trans (by decide +kernel)⟩

end Handover.Race
