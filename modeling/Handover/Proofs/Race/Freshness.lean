import Handover.Proofs.Race.LastUpdate

/-!
# Fresh reads

A write ends with its last access: its publication, or the attempt at the exchange that it owes
afterwards.  A read access is given a publication no older than any write that has ended by then,
and a poll finds the newest publication, unless it was consumed, at any time when the producer is
not at work.

Both rest on one fact.  With no read access open, both cells are fresh only in the gap between a
publication and the exchange owed for it, and what waits in front is then the publication before.
-/

namespace Handover.Race

variable {α : Type}

/-! ## Writes that have ended -/

/-- The access is the last one of a write. -/
def Event.endsWrite (e : Event) : Bool :=
  match e.side, e.action with
  | .producer, .publish => 0 < e.after.openCount
  | .producer, .exchange _ => true
  | _, _ => false

/-- How many publications belong to a write that has not ended. -/
def WritePhase.unended : WritePhase α → Nat
  | exchanging _ _ => 1
  | idle | leaked _ | filled _ _ | publishing _ _ _ | stopped _ => 0

/-- A publication is not ended until its write is. -/
theorem WriteMove.unended {b after : Buffer α} {writer next : WritePhase α} {action : Action}
    (move : WriteMove b writer after next action) :
    (if action = .publish then 1 else 0) + writer.unended =
      (if Event.endsWrite ⟨.producer, action, b.word, after.word⟩ then 1 else 0) +
        next.unended := by
  cases move with
  | look same stays => rw [stays]; rfl
  | enter began word value cells fills | resume began word value cells fills =>
      rcases fills with rfl | ⟨answer, rfl⟩ <;> rw [began] <;> rfl
  | prepare began same goes => rw [began, goes]; rfl
  | publish began word cells goes =>
      rcases goes with ⟨busy, rfl⟩ | ⟨vacant, rfl⟩
      · simp [began, Event.endsWrite, busy, WritePhase.unended]
      · simp [began, Event.endsWrite, vacant, WritePhase.unended]
  | present began vacant fresh word cells goes => rw [began, goes]; rfl
  | miss began missed same goes => rw [began, goes]; rfl

theorem Move.unended {r next : Race α} {event : Event} (move : Move r next event) :
    (if event.publishes then 1 else 0) + r.producer.phase.unended =
      (if event.endsWrite then 1 else 0) + next.producer.phase.unended := by
  cases move with
  | producer kept move => simpa [Event.publishes] using move.unended
  | consumer kept known move => simp [Event.publishes, Event.endsWrite, kept]

/-! ## The gap between a publication and its exchange -/

/-- With no read access open, both cells are fresh only while an exchange is owed for the newest
publication, and the one before it is in front. -/
def History.Gap (h : History α) (w : Word) (writer : WritePhase α) (reader : ReadPhase α) : Prop :=
  reader.openCell = none → w.fields.fresh.get w.fields.back = true →
    w.fields.fresh.get w.fields.front = true →
      writer.Exchanges w ∧ h.latest.get w.fields.front + 1 = h.count

namespace History.Gap

variable {h : History α} {b after : Buffer α} {writer : WritePhase α} {reader : ReadPhase α}
  {action : Action}

theorem write {next : WritePhase α} (gap : h.Gap b.word writer reader)
    (tally : h.Tally b.word.fields reader.openCell)
    (coherent : Coherent b.word.fields writer reader)
    (move : WriteMove b writer after next action) :
    (h.recordWrite b writer action).Gap after.word next reader := by
  intro closed back front
  have counted := (coherent.write move).count
  cases move with
  | look same stays =>
      rw [same] at back front ⊢
      rw [stays]
      exact gap closed back front
  | enter began word value cells fills | resume began word value cells fills =>
      rw [word] at back front
      obtain ⟨⟨owed, answer, owing, -⟩, -⟩ := gap closed back front
      cases began.symm.trans owing
  | prepare began same goes =>
      rw [same] at back front
      obtain ⟨⟨owed, answer, owing, -⟩, -⟩ := gap closed back front
      cases began.symm.trans owing
  | @publish c addend answer began word cells goes =>
      obtain rfl : c = b.word.fields.back :=
        coherent.writer.openCell (congrArg WritePhase.openCell began)
      have waiting : b.word.fields.fresh.get b.word.fields.front = true := by
        rw [word] at front
        exact (Fields.get_fresh_published_of_ne Fields.front_ne_back).symm.trans front
      -- Otherwise an exchange would have been owed already, in the middle of a write.
      have behind : b.word.fields.fresh.get b.word.fields.back = false := by
        rw [← Bool.not_eq_true]
        intro fresh
        obtain ⟨⟨owed, answer, owing, -⟩, -⟩ := gap closed fresh waiting
        cases began.symm.trans owing
      rcases goes with ⟨busy, rfl⟩ | ⟨vacant, rfl⟩
      · rw [closed] at counted
        have busy : 0 < after.word.fields.openCount := busy
        rw [counted] at busy
        cases busy
      · refine ⟨⟨_, _, rfl, rfl⟩, ?_⟩
        rw [began, word]
        refine Eq.trans (congrArg (· + 1) ?_) (count_publish _ _).symm
        exact (Cells.get_set_of_ne _ _ Fields.front_ne_back).trans (tally.front behind waiting)
  | present began vacant fresh word cells goes =>
      rw [word] at back
      exact absurd (Fields.get_fresh_presented.symm.trans back) Bool.false_ne_true
  | miss began missed same goes =>
      rw [same] at back front
      obtain ⟨⟨owed, answer, owing, expected⟩, -⟩ := gap closed back front
      cases began.symm.trans owing
      exact absurd expected.symm missed

theorem look {next : ReadPhase α} (gap : h.Gap b.word writer reader)
    (closed : reader.openCell = none) (same : after = b) (values : List α) :
    (h.hear values).Gap after.word writer next := by
  intro _ back front
  rw [same] at back front ⊢
  rw [latest_hear, count_hear]
  exact gap closed back front

theorem read {next : ReadPhase α} {told : List (Answer α)} (gap : h.Gap b.word writer reader)
    (coherent : Coherent b.word.fields writer reader)
    (move : ReadMove b reader after next told action) :
    (h.recordRead next told action).Gap after.word writer next := by
  cases move with
  | look began same | pollEmpty began empty same | pollReady began ready same
  | miss began missed same => exact gap.look (congrArg ReadPhase.openCell began) same _
  | lookOn began word quiet tells uses | enter began word uses tells =>
      intro closed
      cases uses.openCell.symm.trans closed
  | @release c answer began word cells goes silent =>
      intro _ _ front
      obtain ⟨rfl, -⟩ := coherent.reader.openCell (congrArg ReadPhase.openCell began)
      rw [word] at front
      exact absurd ((Fields.get_fresh_released _).symm.trans front) Bool.false_ne_true
  | turn began vacant fresh drained word cells goes silent =>
      intro _ back
      rw [word] at back
      have cleared : b.word.fields.fresh.get b.word.front = false :=
        (b.word.fresh_fields _).trans drained
      exact absurd (cleared.symm.trans back) Bool.false_ne_true

end History.Gap

/-! ## Runs -/

/-- A history agrees with the race and with the trace of the same run. -/
structure Timed (past : List Event) (h : History α) (r : Race α) : Prop where
  recorded : Recorded h r
  attended : Attended r.buffer.word r.producer.phase r.consumer.phase
  gap : h.Gap r.buffer.word r.producer.phase r.consumer.phase
  /-- All publications belong to writes that have ended, but for one that owes an exchange. -/
  ended : h.count = past.countP Event.endsWrite + r.producer.phase.unended

theorem Timed.step {past : List Event} {h : History α} {r next : Race α} {event : Event}
    (timed : Timed past h r) (move : Move r next event) :
    Timed (past ++ [event]) (h.record r event next) next := by
  obtain ⟨recorded, attended, gap, ended⟩ := timed
  refine ⟨recorded.step move, attended.step move, ?_, ?_⟩
  · cases move with
    | producer kept move =>
        rw [kept]
        exact gap.write recorded.tally recorded.coherent move
    | consumer kept known move =>
        rw [kept, History.record, known, List.drop_left]
        exact gap.read recorded.coherent move
  · have published := (move.record_counts h).1
    have balance := move.unended
    rw [List.countP_append, List.countP_singleton]
    omega

theorem timed_new (initial : α) (producer : List (Task (Put α)))
    (consumer : List (Task (Take α))) :
    Timed [] .empty (new (.new initial) producer consumer) := by
  refine ⟨recorded_new initial producer consumer, attended_new initial producer consumer, ?_, rfl⟩
  intro _ back
  exact absurd ((fresh_initial _).symm.trans back) Bool.false_ne_true

theorem timed_run [Add α] (initial : α) (producer : List (Task (Put α)))
    (consumer : List (Task (Take α))) (schedule : List Side) :
    Timed (run schedule (new (.new initial) producer consumer)).1
      (history schedule (new (.new initial) producer consumer))
      (run schedule (new (.new initial) producer consumer)).2 :=
  history_induction (timed_new initial producer consumer)
    (fun timed moved => timed.step (timed.recorded.coherent.move moved)) schedule

/-- A value that waits in front is no older than any write that has ended. -/
theorem Timed.ended_le {past : List Event} {h : History α} {r : Race α} (timed : Timed past h r)
    (closed : r.consumer.phase.openCell = none)
    (ready : r.buffer.word.fields.fresh.get r.buffer.word.fields.front = true) :
    past.countP Event.endsWrite ≤ h.latest.get r.buffer.word.fields.front := by
  have ended := timed.ended
  cases behind : r.buffer.word.fields.fresh.get r.buffer.word.fields.back with
  | false =>
      have newest := timed.recorded.tally.front behind ready
      omega
  | true =>
      obtain ⟨⟨owed, answer, owing, -⟩, before⟩ := timed.gap closed behind ready
      rw [owing, WritePhase.unended] at ended
      omega

/-! ## Reads that keep up -/

/-- Whatever the producer does meanwhile, the next access of the consumer opens a read access, and a
value is answered for it. -/
def Delivers [Add α] (r : Race α) : Prop :=
  ∀ turns, ∃ event last value told,
    (run (List.replicate turns .producer) r).2.step? .consumer = some (event, last) ∧
      event.action = .enter ∧ last.consumer.known = r.consumer.known ++ .entry (some value) :: told

theorem Consumer.known_eq_answers {p : Consumer α} (silent : p.phase.known = []) :
    p.known = p.answers := by
  rw [known, silent, List.append_nil]

theorem ReadMove.of_entering {b after : Buffer α} {how : Take α} {next : ReadPhase α}
    {told : List (Answer α)} {action : Action}
    (move : ReadMove b (.entering how) after next told action) :
    action = .enter ∧ ∃ value rest, told = .entry (some value) :: rest := by
  cases move with
  | enter began word uses tells =>
      refine ⟨rfl, ?_⟩
      cases told with
      | nil => exact absurd rfl tells
      | cons answer rest =>
          exact ⟨_, rest, congrArg (· :: rest) (uses.told answer List.mem_cons_self)⟩
  | look began | lookOn began | pollEmpty began | pollReady began | release began | turn began
  | miss began => cases began

theorem ReadMove.entering {b after : Buffer α} {phase next : ReadPhase α} {told : List (Answer α)}
    (move : ReadMove b phase after next told .enter) : ∃ how, phase = .entering how := by
  cases move with
  | enter began word uses tells => exact ⟨_, began⟩

/-- A consumer that has found something to read is given a value. -/
theorem IsCoherent.delivers [Add α] {r : Race α} {how : Take α} (coherent : r.IsCoherent)
    (entering : r.consumer.phase = .entering how) : r.Delivers := by
  intro turns
  have later := coherent.after_run (List.replicate turns .producer)
  rw [← consumer_run_producer turns r] at entering ⊢
  generalize (run (List.replicate turns .producer) r).2 = s at later entering ⊢
  have moves : (s.step? .consumer).isSome = true := by
    simp [step?, Consumer.step?, entering]
  obtain ⟨⟨event, last⟩, moved⟩ := Option.isSome_iff_exists.mp moves
  cases later.move moved with
  | producer kept move => cases side_of_step? moved
  | @consumer action told kept known move =>
      rw [entering] at move
      obtain ⟨rfl, value, rest, rfl⟩ := move.of_entering
      exact ⟨_, last, value, rest, moved, rfl, known⟩

/-- A consumer that is given a value had found something to read. -/
theorem Delivers.entering [Add α] {r : Race α} (delivers : r.Delivers)
    (coherent : r.IsCoherent) : ∃ how, r.consumer.phase = .entering how := by
  obtain ⟨event, last, value, told, moved, enters, -⟩ := delivers 0
  cases coherent.move moved with
  | producer kept move => cases side_of_step? moved
  | consumer kept known move =>
      cases enters
      exact move.entering

/-- A poll either finds something to read, or answers that there is nothing. -/
theorem IsCoherent.polled [Add α] {r next : Race α} {event : Event} (coherent : r.IsCoherent)
    (moved : r.step? .consumer = some (event, next)) (polls : event.action = .poll) :
    r.consumer.phase = .idle ∧
      (r.buffer.word.isReady = true ∧ (∃ how, next.consumer.phase = .entering how) ∧
          next.consumer.answers = r.consumer.answers ∨
        r.buffer.word.isReady = false ∧ next.consumer.phase = .idle ∧
          next.consumer.answers = r.consumer.answers ++ [.entry none]) := by
  cases coherent.move moved with
  | producer kept move => cases side_of_step? moved
  | @consumer action told kept known move =>
      cases polls
      cases move with
      | pollEmpty began empty same goes tells =>
          rw [Consumer.known_eq_answers (congrArg ReadPhase.known goes),
            Consumer.known_eq_answers (congrArg ReadPhase.known began), tells] at known
          exact ⟨began, .inr ⟨empty, goes, known⟩⟩
      | pollReady began ready same goes silent =>
          rw [Consumer.known_eq_answers (congrArg ReadPhase.known goes),
            Consumer.known_eq_answers (congrArg ReadPhase.known began), silent,
            List.append_nil] at known
          exact ⟨began, .inl ⟨ready, ⟨_, goes⟩, known⟩⟩

/-- The publication to which a read gets access is no older than any write that has ended. -/
theorem Timed.opens {past : List Event} {h : History α} {r next : Race α} {event : Event}
    (timed : Timed past h r) (move : Move r next event) (opens : event.opensRead = true) :
    ∃ access, (h.record r event next).reads = access :: h.reads ∧
      past.countP Event.endsWrite ≤ access.number := by
  cases move with
  | producer kept move => simp [Event.opensRead] at opens
  | @consumer action told kept known move =>
      obtain rfl : action = .enter := by simpa [Event.opensRead] using opens
      have stands := timed.recorded.coherent.reader
      rw [History.record, known, List.drop_left]
      cases move with
      | enter began word uses tells =>
          rw [began] at stands
          rw [History.recordRead, uses.openCell]
          exact ⟨_, rfl, timed.ended_le (congrArg ReadPhase.openCell began) stands⟩

/-- While the producer is not at work, a poll finds something to read just as long as the newest
publication was not consumed. -/
theorem Timed.polls [Add α] {past : List Event} {h : History α} {r next : Race α}
    {event : Event} (timed : Timed past h r) (resting : r.producer.phase = .idle)
    (moved : r.step? .consumer = some (event, next)) (polls : event.action = .poll) :
    (next.Delivers ↔ h.published ≠ [] ∧ ¬ h.Consumed) ∧
      (next.consumer.answers = r.consumer.answers ++ [.entry none] ↔
        ¬ (h.published ≠ [] ∧ ¬ h.Consumed)) := by
  have coherent := timed.recorded.coherent
  have after := coherent.step (coherent.move moved)
  obtain ⟨began, found⟩ := coherent.polled moved polls
  have finds := (timed.recorded.at_end timed.attended resting began).2.1
  rcases found with ⟨ready, ⟨how, entering⟩, silent⟩ | ⟨empty, idle, answered⟩
  · have waits := finds.mp ready
    refine ⟨iff_of_true (after.delivers entering) waits, iff_of_false ?_ (not_not.mpr waits)⟩
    rw [silent]
    exact fun same => List.cons_ne_nil _ _ (List.self_eq_append_right.mp same)
  · have consumed : ¬ (h.published ≠ [] ∧ ¬ h.Consumed) := fun waits =>
      absurd (empty.symm.trans (finds.mpr waits)) Bool.false_ne_true
    refine ⟨iff_of_false ?_ consumed, iff_of_true answered consumed⟩
    intro delivers
    obtain ⟨how, entering⟩ := delivers.entering after
    cases idle.symm.trans entering

/-- A read that is opened is given the value of a publication no older than any write that has ended
by then.  And if the producer has neither an access open nor an exchange to make while the consumer
polls, the read is given a value just as long as the newest publication was not consumed, whatever
the producer does before the access is opened; otherwise the answer is that there is none. -/
theorem reads_keep_up [Add α] (initial : α) (producer : List (Task (Put α)))
    (consumer : List (Task (Take α))) (schedule : List Side) :
    let start := new (.new initial) producer consumer
    let events := (run schedule start).1
    let r := (run schedule start).2
    let h := history schedule start
    ∀ event next, r.step? .consumer = some (event, next) →
      (event.action = .enter → ∃ access, (h.record r event next).reads = access :: h.reads ∧
        events.countP Event.endsWrite ≤ access.number ∧ access.values ≠ [] ∧
        ∀ value ∈ access.values, (h.record r event next).valueAt access.number = some value) ∧
      (event.action = .poll → r.producer.phase.openCell = none →
        (∀ owed answer, r.producer.phase ≠ .exchanging owed answer) →
        (next.Delivers ↔ h.published ≠ [] ∧ ¬ h.Consumed) ∧
        (next.consumer.answers = r.consumer.answers ++ [.entry none] ↔
          ¬ (h.published ≠ [] ∧ ¬ h.Consumed))) := by
  intro start events r h event next moved
  have timed : Timed events h r := timed_run initial producer consumer schedule
  have move := timed.recorded.coherent.move moved
  constructor
  · intro enters
    have opens : event.opensRead = true := by
      simp [Event.opensRead, enters, side_of_step? moved]
    obtain ⟨access, reads, number⟩ := timed.opens move opens
    have among : access ∈ (h.record r event next).reads := by
      rw [reads]
      exact List.mem_cons_self
    obtain ⟨-, told, values⟩ := (timed.recorded.step move).answered.delivered access among
    exact ⟨access, reads, number, told, values⟩
  · intro polls closed settled
    have stands := timed.recorded.coherent.writer
    have resting : r.producer.phase = .idle := by
      cases phase : r.producer.phase with
      | idle => rfl
      | leaked c | filled c answer | publishing c addend answer =>
          rw [phase] at closed
          cases closed
      | exchanging owed answer => exact absurd phase (settled owed answer)
      | stopped fault =>
          rw [phase] at stands
          exact stands.elim
    exact timed.polls resting moved polls

/-- The second write is published and owes an exchange, and the consumer has polled. -/
def inGap : List Side :=
  List.replicate 7 .producer ++ [.consumer]

theorem reads_keep_up_in_gap :
    ((run inGap threeWrites).1.countP Event.endsWrite = 1 ∧ (history inGap threeWrites).count = 2 ∧
      ∃ event next access, (run inGap threeWrites).2.step? .consumer = some (event, next) ∧
        event.action = .enter ∧ next.consumer.known = [.entry (some 1)] ∧
        ((history inGap threeWrites).record (run inGap threeWrites).2 event next).reads =
          access :: (history inGap threeWrites).reads ∧
        (run inGap threeWrites).1.countP Event.endsWrite ≤ access.number) ∧
    ∃ event next, (run (List.replicate 4 .producer) threeWrites).2.step? .consumer =
        some (event, next) ∧
      event.action = .poll ∧ next.Delivers := by
  constructor
  · have moved := (Option.some_get
      (by decide +kernel : ((run inGap threeWrites).2.step? .consumer).isSome = true)).symm
    obtain ⟨access, reads, number, -⟩ :=
      (reads_keep_up 0 _ _ inGap _ _ moved).1 (by decide +kernel)
    exact ⟨by decide +kernel, by decide +kernel, _, _, access, moved, by decide +kernel,
      by decide +kernel, reads, number⟩
  · have moved := (Option.some_get (by decide +kernel :
      ((run (List.replicate 4 .producer) threeWrites).2.step? .consumer).isSome = true)).symm
    have resting : (run (List.replicate 4 .producer) threeWrites).2.producer.phase = .idle := by
      decide +kernel
    have polled := (reads_keep_up 0 _ _ (List.replicate 4 .producer) _ _ moved).2
      (by decide +kernel) (congrArg WritePhase.openCell resting)
      (fun owed answer owing => by cases resting.symm.trans owing)
    exact ⟨_, _, moved, by decide +kernel, polled.1.mpr (by decide +kernel)⟩

end Handover.Race
