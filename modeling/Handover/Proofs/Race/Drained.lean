import Mathlib.Data.List.Nodup
import Handover.Proofs.Race.LastUpdate
import Handover.Proofs.Word.Regions

/-!
# Whether everything was consumed

The producer is told that the buffer is drained just as long as the newest publication, if there is
one, was read and the access to it closed.  Neither half is evident from the flags: the flag of the
newest publication has to stay set until that, wherever its cell is moved, and the flag of an older
one has to be gone by then.
-/

namespace Handover.Race

variable {α : Type}

namespace History

variable {h : History α} {reading : Option Cell} {known : List (Answer α)}

/-! ## The read access that is open -/

/-- Whether the newest read access was not closed. -/
def isReading (h : History α) : Bool :=
  h.reads.head?.any (!·.closed)

@[simp]
theorem isReading_hear (values : List α) : (h.hear values).isReading = h.isReading := by
  obtain ⟨published, latest, reads⟩ := h
  cases reads <;> rfl

theorem isReading_recordWrite (b : Buffer α) (writer : WritePhase α) (action : Action) :
    (h.recordWrite b writer action).isReading = h.isReading := by
  unfold recordWrite
  split
  · split <;> rfl
  · rfl

/-- An access that the consumer has open is in the history, and not closed there. -/
theorem isReading_recordRead {b after : Buffer α} {reader next : ReadPhase α}
    {told : List (Answer α)} {action : Action} (move : ReadMove b reader after next told action)
    (before : reader.openCell ≠ none → h.isReading = true) (opened : next.openCell ≠ none) :
    (h.recordRead next told action).isReading = true := by
  have closing := move.openCell
  cases move with
  | enter began word uses tells =>
      rw [recordRead, uses.openCell]
      rfl
  | release => exact absurd closing opened
  | look | lookOn | pollEmpty | pollReady | turn | miss =>
      exact (isReading_hear _).trans (before (closing.symm.trans_ne opened))

/-- A read access that is not closed is to the publication that was read last. -/
theorem exists_open (isReading : h.isReading = true) :
    ∃ newest ∈ h.reads, newest.number = h.lastRead ∧ newest.closed = false := by
  obtain ⟨published, latest, reads⟩ := h
  cases reads with
  | nil => cases isReading
  | cons newest older =>
      exact ⟨newest, List.mem_cons_self, rfl, by simpa [History.isReading] using isReading⟩

/-- No publication is read twice. -/
theorem Answered.eq_of_number (answered : h.Answered reading known) {access other : Reading α}
    (among : access ∈ h.reads) (too : other ∈ h.reads) (same : access.number = other.number) :
    access = other := by
  have distinct : (h.reads.map (·.number)).Nodup :=
    List.pairwise_map.mpr (answered.ordered.imp fun earlier => Nat.ne_of_gt earlier)
  exact List.inj_on_of_nodup_map distinct among too same

/-- While the newest publication is being read it is not consumed. -/
theorem Answered.not_consumed_of_open (answered : h.Answered reading known) {access : Reading α}
    (among : access ∈ h.reads) (number : access.number = h.count)
    (open_still : access.closed = false) : ¬ h.Consumed := by
  rintro ⟨other, too, same, closed⟩
  obtain rfl := answered.eq_of_number among too (number.trans same.symm)
  exact absurd (open_still.symm.trans closed) Bool.false_ne_true

/-- What was read was published. -/
theorem Answered.published_ne_nil (answered : h.Answered reading known) {access : Reading α}
    (among : access ∈ h.reads) : h.published ≠ [] := by
  obtain ⟨-, some_told, values⟩ := answered.delivered access among
  obtain ⟨value, told⟩ := List.exists_mem_of_ne_nil _ some_told
  have found := values value told
  intro empty
  cases number : access.number with
  | zero => simp [number, valueAt] at found
  | succ number => simp [‹access.number = _›, valueAt, empty] at found

end History

/-! ## Flags that are set -/

/-- A history agrees with the race of which it is the history, and has the open read access last. -/
structure Attested (h : History α) (r : Race α) : Prop where
  recorded : Recorded h r
  reading : r.consumer.phase.openCell ≠ none → h.isReading = true

namespace Attested

variable {h : History α} {r next : Race α}

theorem step {event : Event} (attested : Attested h r) (move : Move r next event) :
    Attested (h.record r event next) next := by
  refine ⟨attested.recorded.step move, ?_⟩
  cases move with
  | producer kept move =>
      intro opened
      rw [kept] at opened
      exact (History.isReading_recordWrite _ _ _).trans (attested.reading opened)
  | consumer kept known move =>
      rw [History.record, known, List.drop_left]
      exact History.isReading_recordRead move attested.reading

/-- A flag that is set tells that the newest publication is in a fresh cell and was not consumed. -/
theorem waiting (attested : Attested h r) {c : Cell} (fresh : r.buffer.word.isFresh c = true) :
    (∃ c, r.buffer.word.isFresh c = true ∧ h.latest.get c = h.count) ∧
      h.published ≠ [] ∧ ¬ h.Consumed := by
  obtain ⟨⟨coherent, tally, -, answered⟩, reading⟩ := attested
  have unread (later : h.lastRead < h.count) : h.published ≠ [] ∧ ¬ h.Consumed :=
    ⟨List.length_pos_iff.mp (Nat.zero_lt_of_lt later), History.not_consumed answered later⟩
  cases behind : r.buffer.word.isFresh r.buffer.word.back with
  | true =>
      have marked := (Word.fresh_fields _ _).trans behind
      have number : h.latest.get r.buffer.word.back = h.count := tally.back marked
      refine ⟨⟨_, behind, number⟩, unread ?_⟩
      rw [← number]
      refine tally.unread _ marked fun opened => ?_
      exact Fields.front_ne_back (coherent.reader.openCell opened).1.symm
  | false =>
      obtain rfl : c = r.buffer.word.front := by
        by_contra other
        obtain rfl : c = r.buffer.word.fields.back := Fields.eq_back_of_ne_front other
        exact absurd (behind.symm.trans fresh) Bool.false_ne_true
      have marked := (Word.fresh_fields _ _).trans fresh
      have number : h.latest.get r.buffer.word.front = h.count :=
        tally.front ((Word.fresh_fields _ _).trans behind) marked
      refine ⟨⟨_, fresh, number⟩, ?_⟩
      cases opened : r.consumer.phase.openCell with
      | none =>
          rw [opened] at tally
          refine unread ?_
          rw [← number]
          exact tally.unread _ marked (Option.some_ne_none _).symm
      | some d =>
          obtain ⟨rfl, -⟩ := coherent.reader.openCell opened
          obtain ⟨newest, among, newest_number, open_still⟩ :=
            History.exists_open (reading (by simp [opened]))
          have read : newest.number = h.count :=
            newest_number.trans ((tally.held _ opened).trans number)
          exact ⟨answered.published_ne_nil among,
            answered.not_consumed_of_open among read open_still⟩

/-- With no flag set, the newest publication was consumed if there is one. -/
theorem consumed (attested : Attested h r) (drained : ∀ c, r.buffer.word.isFresh c = false) :
    h.published = [] ∨ h.Consumed := by
  obtain ⟨⟨coherent, tally, -, answered⟩, -⟩ := attested
  have quiet (c : Cell) : r.buffer.word.fields.fresh.get c = false :=
    (Word.fresh_fields _ _).trans (drained c)
  cases opened : r.consumer.phase.openCell with
  | some c =>
      obtain ⟨-, fresh⟩ := coherent.reader.openCell opened
      exact absurd ((quiet c).symm.trans fresh) Bool.false_ne_true
  | none =>
      rw [opened] at answered
      by_cases published : h.published = []
      · exact .inl published
      · exact .inr (History.consumed_of_lastRead answered (tally.drained (quiet _) (quiet _))
          published)

end Attested

theorem attested_run [Add α] (initial : α) (producer : List (Task (Put α)))
    (consumer : List (Task (Take α))) (schedule : List Side) :
    Attested (history schedule (new (.new initial) producer consumer))
      (run schedule (new (.new initial) producer consumer)).2 := by
  apply recount_induction (motive := fun r h => Attested h r) _ _ schedule _
    ⟨recorded_new initial producer consumer, fun opened => absurd rfl opened⟩
  intro r h side event next attested moved
  exact attested.step (attested.recorded.coherent.move moved)

/-! ## The answer to the producer -/

/-- The word is drained unless a flag is set. -/
theorem isDrained_eq_false_iff (w : Word) :
    w.isDrained = false ↔ ∃ c, w.isFresh c = true := by
  rw [Word.isDrained, Bool.not_eq_false', Bool.or_eq_true]
  constructor
  · rintro (first | second)
    · exact ⟨.first, first⟩
    · exact ⟨.second, second⟩
  · rintro ⟨_ | _, fresh⟩
    · exact .inl fresh
    · exact .inr fresh

/-- A producer that asks is answered from the word as it is. -/
theorem step?_of_asking [Add α] {r : Race α} {rest : List (Task (Put α))}
    (asks : r.producer.program = .ask :: rest)
    (rests : r.producer.phase = .idle ∨ ∃ c, r.producer.phase = .leaked c) :
    ∃ event next, r.step? .producer = some (event, next) ∧ event.action = .look ∧
      next.producer.answers = r.producer.answers ++ [.truth r.buffer.word.isDrained] := by
  obtain ⟨b, ⟨program, phase, answers⟩, reader⟩ := r
  obtain rfl : program = .ask :: rest := asks
  rcases rests with idle | ⟨c, leaked⟩
  · obtain rfl : phase = .idle := idle
    exact ⟨_, _, rfl, rfl, rfl⟩
  · obtain rfl : phase = .leaked c := leaked
    exact ⟨_, _, rfl, rfl, rfl⟩

/-- Whenever the producer asks, the answer is that everything was consumed just as long as nothing
was published, or the newest publication was read and the access to it closed.  The answer is no only
because the newest publication is in a fresh cell, never because of an older one, and it is no for as
long as the newest publication waits there or is being read. -/
theorem told_drained_exactly [Add α] (initial : α) (producer : List (Task (Put α)))
    (consumer : List (Task (Take α))) (schedule : List Side) {rest : List (Task (Put α))} :
    let r := (run schedule (new (.new initial) producer consumer)).2
    let h := history schedule (new (.new initial) producer consumer)
    r.producer.program = .ask :: rest →
      (r.producer.phase = .idle ∨ ∃ c, r.producer.phase = .leaked c) →
      ∃ event next drained, r.step? .producer = some (event, next) ∧ event.action = .look ∧
        next.producer.answers = r.producer.answers ++ [.truth drained] ∧
        (drained = true ↔ h.published = [] ∨ h.Consumed) ∧
        (drained = false ↔ ∃ c, r.buffer.word.isFresh c = true ∧ h.latest.get c = h.count) ∧
        ((∃ access ∈ h.reads, access.number = h.count ∧ access.closed = false) →
          drained = false) := by
  intro r h asks rests
  have attested : Attested h r := attested_run initial producer consumer schedule
  obtain ⟨event, next, moved, looks, answered⟩ := step?_of_asking asks rests
  refine ⟨event, next, r.buffer.word.isDrained, moved, looks, answered, ?_⟩
  cases drained : r.buffer.word.isDrained with
  | false =>
      obtain ⟨c, fresh⟩ := (isDrained_eq_false_iff _).mp drained
      obtain ⟨newest, published, kept⟩ := attested.waiting fresh
      refine ⟨iff_of_false Bool.false_ne_true ?_, iff_of_true rfl newest, fun _ => rfl⟩
      exact not_or.mpr ⟨published, kept⟩
  | true =>
      have quiet (c : Cell) : r.buffer.word.isFresh c = false := by
        rw [← Bool.not_eq_true]
        intro fresh
        exact absurd (((isDrained_eq_false_iff _).mpr ⟨c, fresh⟩).symm.trans drained)
          Bool.false_ne_true
      have consumed := attested.consumed quiet
      have answered := attested.recorded.answered
      refine ⟨iff_of_true rfl consumed, iff_of_false Bool.false_ne_true.symm ?_, ?_⟩
      · rintro ⟨c, fresh, -⟩
        exact absurd ((quiet c).symm.trans fresh) Bool.false_ne_true
      · rintro ⟨access, among, number, open_still⟩
        rcases consumed with none_published | consumed
        · exact absurd none_published (answered.published_ne_nil among)
        · exact absurd consumed (answered.not_consumed_of_open among number open_still)

/-- Two writes and a question, and two reads. -/
def asksLast : Race Nat :=
  new (.new 0) [.access (.write 1), .access (.write 2), .ask] [.access .read, .access .read]

/-- The second write is published while the first is read; the read then ends, and so does a second
one. -/
def consuming : List Side :=
  List.replicate 4 .producer ++ List.replicate 2 .consumer ++ List.replicate 3 .producer ++
    List.replicate 5 .consumer

theorem told_drained_exactly_after_reads :
    ∃ event next, (run consuming asksLast).2.step? .producer = some (event, next) ∧
      next.producer.answers = [.done, .done, .truth true] := by
  have asks : (run consuming asksLast).2.producer.program = [.ask] := by decide +kernel
  have rests : (run consuming asksLast).2.producer.phase = .idle := by decide +kernel
  obtain ⟨event, next, drained, moved, -, answered, exactly, -⟩ :=
    told_drained_exactly 0 _ _ consuming asks (.inl rests)
  obtain rfl : drained = true := exactly.mpr (.inr (by decide +kernel))
  exact ⟨event, next, moved, answered.trans (by decide +kernel)⟩

end Handover.Race
