import Handover.Proofs.Race.Freshness

/-!
# Reads that find nothing

A read may find nothing although a write has ended whose value was never read.  This takes three
accesses that overlap: the write ends during a read, so that the exchange is left to the reader; the
next write begins before that read is over, in the cell that holds the value; and it goes on while
the next read looks for something.  In no other case does a read find nothing as long as a write
that has ended was not read.
-/

namespace Handover.Race

variable {α : Type}

/-! ## What a trace tells of the accesses under way -/

/-- An event happened, and none has broken it since. -/
def Since (happened : List Event → Event → Prop) (broken : Event → Bool)
    (events : List Event) : Prop :=
  ∃ past event later, events = past ++ event :: later ∧ happened past event ∧
    ∀ e ∈ later, broken e = false

namespace Since

variable {happened : List Event → Event → Prop} {broken : Event → Bool} {past : List Event}
  {event : Event}

theorem now (happens : happened past event) : Since happened broken (past ++ [event]) :=
  ⟨past, event, [], rfl, happens, fun _ among => absurd among List.not_mem_nil⟩

theorem keep (since : Since happened broken past) (intact : broken event = false) :
    Since happened broken (past ++ [event]) := by
  obtain ⟨first, found, later, rfl, happens, unbroken⟩ := since
  refine ⟨first, found, later ++ [event], List.append_assoc _ _ _, happens, ?_⟩
  intro e among
  rcases List.mem_append.mp among with among | among
  · exact unbroken e among
  · rw [List.mem_singleton.mp among]
    exact intact

end Since

namespace Event

/-- The access opens a write access. -/
def opensWrite (e : Event) : Bool :=
  e.side = .producer ∧ e.action = .enter

/-- The access is the last one of a read. -/
def endsRead (e : Event) : Bool :=
  match e.side, e.action with
  | .consumer, .release => ¬ (e.after.openCount = 0 ∧ e.after.isFresh e.after.back)
  | .consumer, .exchange _ => true
  | _, _ => false

end Event

/-- A read access was opened, and the read has not ended. -/
def InRead : List Event → Prop :=
  Since (fun _ e => e.opensRead) Event.endsRead

/-- The last write to end did so during a read, which has not ended. -/
def WroteInRead : List Event → Prop :=
  Since (fun past e => InRead past ∧ e.endsWrite) (fun e => e.endsRead || e.endsWrite)

/-- A further write was begun during the same read, and has not ended. -/
def Overtaken : List Event → Prop :=
  Since (fun past e => WroteInRead past ∧ e.opensWrite) Event.endsWrite

/-! ## Places in the middle of a write or a read -/

/-- A write access was opened, and the write has not ended. -/
def WritePhase.underWay : WritePhase α → Bool
  | leaked _ | filled _ _ | publishing _ _ _ | exchanging _ _ => true
  | idle | stopped _ => false

/-- A read access was opened, and the read has not ended. -/
def ReadPhase.underWay : ReadPhase α → Bool
  | leaked _ | releasing _ _ | exchanging _ _ => true
  | idle | entering _ | stopped _ => false

theorem WriteMove.underWay {b after : Buffer α} {writer next : WritePhase α} {action : Action}
    (move : WriteMove b writer after next action) :
    let event : Event := ⟨.producer, action, b.word, after.word⟩
    next.underWay = (!event.endsWrite && (writer.underWay || event.opensWrite)) := by
  cases move with
  | look same stays => simp [stays, Event.endsWrite, Event.opensWrite]
  | enter began word value cells fills | resume began word value cells fills =>
      rcases fills with rfl | ⟨answer, rfl⟩ <;> rw [began] <;> rfl
  | prepare began same goes => rw [began, goes]; rfl
  | publish began word cells goes =>
      rcases goes with ⟨busy, rfl⟩ | ⟨vacant, rfl⟩
      · simp [Event.endsWrite, busy, WritePhase.underWay]
      · simp [began, Event.endsWrite, vacant, WritePhase.underWay]
  | present began vacant fresh word cells goes => rw [goes]; rfl
  | miss began missed same goes => rw [goes]; rfl

theorem ReadMove.underWay {b after : Buffer α} {reader next : ReadPhase α}
    {told : List (Answer α)} {action : Action} (move : ReadMove b reader after next told action) :
    let event : Event := ⟨.consumer, action, b.word, after.word⟩
    next.underWay = (!event.endsRead && (reader.underWay || event.opensRead)) := by
  cases move with
  | look began same goes quiet tells => rw [began, goes]; rfl
  | lookOn began word quiet tells uses =>
      rcases uses.cells with ⟨-, rfl⟩ | ⟨value, answer, -, rfl⟩ <;> rw [began] <;> rfl
  | pollEmpty began empty same goes tells => rw [began, goes]; rfl
  | pollReady began ready same goes silent => rw [began, goes]; rfl
  | enter began word uses tells =>
      rcases uses.cells with ⟨-, rfl⟩ | ⟨value, answer, -, rfl⟩ <;> rw [began] <;> rfl
  | release began word cells goes silent =>
      rcases goes with ⟨settled, rfl⟩ | ⟨owing, rfl⟩
      · simp [Event.endsRead, settled, ReadPhase.underWay]
      · simp [began, Event.endsRead, owing, ReadPhase.underWay]
  | turn began vacant fresh drained word cells goes silent => rw [goes]; rfl
  | miss began missed same goes silent => rw [goes]; rfl

/-- A write that goes on neither brings anything to the front nor takes it away. -/
theorem WriteMove.isReady {b after : Buffer α} {writer next : WritePhase α} {action : Action}
    (move : WriteMove b writer after next action)
    (goesOn : Event.endsWrite ⟨.producer, action, b.word, after.word⟩ = false) :
    after.word.isReady = b.word.isReady := by
  have front (w : Word) : w.isReady = w.fields.fresh.get w.fields.front :=
    (w.fresh_fields _).symm
  cases move with
  | look same stays => rw [same]
  | enter began word value cells fills => rw [front, word, front]; rfl
  | resume began word value cells fills => rw [word]
  | prepare began same goes => rw [same]
  | publish began word cells goes =>
      rw [front, word, front]
      exact Fields.get_fresh_published_of_ne Fields.front_ne_back
  | present | miss => cases goesOn

theorem WritePhase.openCell_eq_none {writer : WritePhase α} (resting : writer.underWay = false) :
    writer.openCell = none := by
  cases writer with
  | idle | stopped fault => rfl
  | leaked c | filled c answer | publishing c addend answer | exchanging owed answer =>
      cases resting

theorem ReadPhase.openCell_eq_none {reader : ReadPhase α} (resting : reader.underWay = false) :
    reader.openCell = none := by
  cases reader with
  | idle | entering how | stopped fault => rfl
  | leaked c | releasing c answer | exchanging owed answer => cases resting

/-- Before it opens an access, a read only looks at the word. -/
theorem ReadMove.word {b after : Buffer α} {reader next : ReadPhase α} {told : List (Answer α)}
    {action : Action} (move : ReadMove b reader after next told action)
    (resting : reader.underWay = false) (other : action ≠ .enter) : after.word = b.word := by
  cases move with
  | look began same | pollEmpty began empty same | pollReady began ready same => rw [same]
  | enter => exact absurd rfl other
  | lookOn began | release began | turn began | miss began =>
      rw [began] at resting
      cases resting

/-! ## Reads that find nothing -/

/-- With neither a write nor a read under way and nothing to read, every write that has ended was
read, or superseded by one that was. -/
theorem Timed.ended_le_lastRead {past : List Event} {h : History α} {r : Race α}
    (timed : Timed past h r) (wrote : r.producer.phase.underWay = false)
    (read : r.consumer.phase.underWay = false) (empty : r.buffer.word.isReady = false) :
    past.countP Event.endsWrite ≤ h.lastRead := by
  have ended := timed.ended
  have vacant : r.buffer.word.openCount = 0 := by
    have count := timed.recorded.coherent.count
    rw [WritePhase.openCell_eq_none wrote, ReadPhase.openCell_eq_none read] at count
    exact count
  have settled : r.buffer.word.isFresh r.buffer.word.back = false := by
    rw [← Bool.not_eq_true]
    intro fresh
    rcases timed.attended vacant fresh with ⟨owed, answer, owing, -⟩ | ⟨owed, answer, owing, -⟩
    · rw [owing] at wrote
      cases wrote
    · rw [owing] at read
      cases read
  have newest : h.lastRead = h.count := timed.recorded.tally.drained
    ((Word.fresh_fields _ _).trans settled) ((Word.fresh_fields _ _).trans empty)
  omega

namespace History

variable (h : History α)

theorem lastRead_recordWrite (b : Buffer α) (writer : WritePhase α) (action : Action) :
    (h.recordWrite b writer action).lastRead = h.lastRead := by
  unfold recordWrite
  split
  · split <;> rfl
  · rfl

theorem lastRead_recordRead (next : ReadPhase α) (told : List (Answer α)) {action : Action}
    (other : action ≠ .enter) : (h.recordRead next told action).lastRead = h.lastRead := by
  unfold recordRead
  split
  · exact absurd rfl other
  · exact lastRead_closeRead
  · exact lastRead_hear _

end History

/-- Why the last write to end may not have been read: it ended during the read that is under way, or
it was overtaken. -/
structure Explained (past : List Event) (h : History α) (r : Race α) : Prop where
  inRead : r.consumer.phase.underWay = true → InRead past
  during : r.consumer.phase.underWay = true → h.lastRead < past.countP Event.endsWrite →
    WroteInRead past ∧ (r.producer.phase.underWay = true → Overtaken past)
  afterwards : r.consumer.phase.underWay = false → r.buffer.word.isReady = false →
    h.lastRead < past.countP Event.endsWrite → Overtaken past

namespace Explained

variable {past : List Event} {h : History α} {r next : Race α}

theorem write {action : Action} (explained : Explained past h r) (timed : Timed past h r)
    (kept : next.consumer = r.consumer)
    (move : WriteMove r.buffer r.producer.phase next.buffer next.producer.phase action) :
    let event : Event := ⟨.producer, action, r.buffer.word, next.buffer.word⟩
    Explained (past ++ [event]) (h.record r event next) next := by
  intro event
  have after : Timed (past ++ [event]) (h.record r event next) next :=
    timed.step (.producer kept move)
  have number : (h.record r event next).lastRead = h.lastRead := h.lastRead_recordWrite _ _ _
  have going : next.producer.phase.underWay =
      (!event.endsWrite && (r.producer.phase.underWay || event.opensWrite)) := move.underWay
  have goes_on (goesOn : event.endsWrite = false) :
      (past ++ [event]).countP Event.endsWrite = past.countP Event.endsWrite := by
    simp [goesOn]
  refine ⟨?_, ?_, ?_⟩
  · intro reading
    rw [kept] at reading
    exact (explained.inRead reading).keep rfl
  · intro reading unread
    rw [kept] at reading
    cases ends : event.endsWrite with
    | true =>
        refine ⟨.now ⟨explained.inRead reading, ends⟩, ?_⟩
        intro writing
        simp [going, ends] at writing
    | false =>
        rw [number, goes_on ends] at unread
        obtain ⟨wrote, overtakes⟩ := explained.during reading unread
        refine ⟨wrote.keep (Bool.or_eq_false_iff.mpr ⟨rfl, ends⟩), ?_⟩
        intro writing
        rw [going, ends] at writing
        rcases Bool.or_eq_true_iff.mp writing with before | opens
        · exact (overtakes before).keep ends
        · exact .now ⟨wrote, opens⟩
  · intro resting empty unread
    cases writing : next.producer.phase.underWay with
    | false => exact absurd (after.ended_le_lastRead writing resting empty) (Nat.not_le.mpr unread)
    | true =>
        rw [kept] at resting
        have ends : event.endsWrite = false := by
          rw [going] at writing
          simpa using (Bool.and_eq_true_iff.mp writing).1
        rw [number, goes_on ends] at unread
        exact (explained.afterwards resting ((move.isReady ends).symm.trans empty) unread).keep ends

theorem read {action : Action} {told : List (Answer α)} (explained : Explained past h r)
    (timed : Timed past h r) (kept : next.producer = r.producer)
    (known : next.consumer.known = r.consumer.known ++ told)
    (move : ReadMove r.buffer r.consumer.phase next.buffer next.consumer.phase told action) :
    let event : Event := ⟨.consumer, action, r.buffer.word, next.buffer.word⟩
    Explained (past ++ [event]) (h.record r event next) next := by
  intro event
  have after : Timed (past ++ [event]) (h.record r event next) next :=
    timed.step (.consumer kept known move)
  have ended : (past ++ [event]).countP Event.endsWrite = past.countP Event.endsWrite := by
    simp [event, Event.endsWrite]
  have number (other : action ≠ .enter) : (h.record r event next).lastRead = h.lastRead := by
    rw [History.record, known, List.drop_left]
    exact h.lastRead_recordRead _ _ other
  have going : next.consumer.phase.underWay =
      (!event.endsRead && (r.consumer.phase.underWay || event.opensRead)) := move.underWay
  refine ⟨?_, ?_, ?_⟩
  · intro reading
    rw [going, Bool.and_eq_true, Bool.or_eq_true, Bool.not_eq_true'] at reading
    rcases reading with ⟨goesOn, before | opens⟩
    · exact (explained.inRead before).keep goesOn
    · exact .now opens
  · intro reading unread
    rw [ended] at unread
    by_cases opened : action = .enter
    · -- A read that was just opened is no older than any write that has ended.
      obtain ⟨access, reads, fresh⟩ := timed.opens (.consumer kept known move)
        (by simp [Event.opensRead, opened])
      have newest : (h.record r event next).lastRead = access.number := by
        rw [History.lastRead, reads]
      omega
    · rw [number opened] at unread
      rw [going, Bool.and_eq_true, Bool.or_eq_true, Bool.not_eq_true'] at reading
      rcases reading with ⟨goesOn, before | opens⟩
      · obtain ⟨wrote, overtakes⟩ := explained.during before unread
        refine ⟨wrote.keep (Bool.or_eq_false_iff.mpr ⟨goesOn, rfl⟩), ?_⟩
        intro writing
        rw [kept] at writing
        exact (overtakes writing).keep rfl
      · exact absurd (of_decide_eq_true opens).2 opened
  · intro resting empty unread
    have other : action ≠ .enter := by
      rintro rfl
      simp [going, event, Event.endsRead, Event.opensRead] at resting
    have writing : r.producer.phase.underWay = true := by
      rw [← kept, ← Bool.not_eq_false]
      intro wrote
      exact absurd (after.ended_le_lastRead wrote resting empty) (Nat.not_le.mpr unread)
    rw [number other, ended] at unread
    cases reading : r.consumer.phase.underWay with
    | true => exact ((explained.during reading unread).2 writing).keep rfl
    | false =>
        rw [move.word reading other] at empty
        exact (explained.afterwards reading empty unread).keep rfl

end Explained

theorem explained_run [Add α] (initial : α) (producer : List (Task (Put α)))
    (consumer : List (Task (Take α))) (schedule : List Side) :
    Explained (run schedule (new (.new initial) producer consumer)).1
      (history schedule (new (.new initial) producer consumer))
      (run schedule (new (.new initial) producer consumer)).2 := by
  have start : Explained [] .empty (new (.new initial) producer consumer) := by
    refine ⟨nofun, nofun, ?_⟩
    intro _ _ unread
    cases unread
  refine (history_induction (motive := fun past h r => Timed past h r ∧ Explained past h r)
    ⟨timed_new initial producer consumer, start⟩ ?_ schedule).2
  rintro past h r side event next ⟨timed, explained⟩ moved
  have move := timed.recorded.coherent.move moved
  refine ⟨timed.step move, ?_⟩
  cases move with
  | producer kept move => exact explained.write timed kept move
  | consumer kept known move => exact explained.read timed kept known move

theorem History.exists_read {h : History α} {number : Nat} (positive : 0 < number)
    (read : number ≤ h.lastRead) : ∃ access ∈ h.reads, number ≤ access.number := by
  unfold lastRead at read
  split at read
  · omega
  · next newest older reads =>
    exact ⟨newest, by rw [reads]; exact List.mem_cons_self, read⟩

/-- If a read finds nothing, then no write had ended when it looked, or the last one that had was
read, or superseded by one that was, or that write ended during a read before whose end the next
write was begun, and the next write has not ended. -/
theorem empty_read_explained [Add α] (initial : α) (producer : List (Task (Put α)))
    (consumer : List (Task (Take α))) (schedule : List Side) :
    let start := new (.new initial) producer consumer
    let events := (run schedule start).1
    let r := (run schedule start).2
    let h := history schedule start
    ∀ event next, r.step? .consumer = some (event, next) → event.action = .poll →
      next.consumer.answers = r.consumer.answers ++ [.entry none] →
      events.countP Event.endsWrite = 0 ∨
        (∃ access ∈ h.reads, events.countP Event.endsWrite ≤ access.number) ∨
        Overtaken events := by
  intro start events r h event next moved polls answered
  have timed : Timed events h r := timed_run initial producer consumer schedule
  have explained : Explained events h r := explained_run initial producer consumer schedule
  obtain ⟨began, found⟩ := timed.recorded.coherent.polled moved polls
  have empty : r.buffer.word.isReady = false := by
    rcases found with ⟨-, -, silent⟩ | ⟨empty, -, -⟩
    · exact absurd (List.self_eq_append_right.mp (silent.symm.trans answered))
        (List.cons_ne_nil _ _)
    · exact empty
  rcases Nat.eq_zero_or_pos (events.countP Event.endsWrite) with none_ended | positive
  · exact .inl none_ended
  refine .inr ?_
  by_cases read : events.countP Event.endsWrite ≤ h.lastRead
  · exact .inl (h.exists_read positive read)
  · refine .inr (explained.afterwards ?_ empty (Nat.lt_of_not_le read))
    rw [began]
    rfl

/-- The second write ends during the read of the first, and the third is begun before that read is
over. -/
def reentering : List Side :=
  List.replicate 4 .producer ++ List.replicate 2 .consumer ++ List.replicate 4 .producer ++
    [.consumer]

/-- Three writes and two reads. -/
def twoReads : Race Int :=
  new (.new 0) ([1, 2, 3].map fun value => .access (.write value))
    (List.replicate 2 (.access .read))

theorem empty_read_explained_reentering :
    ∃ event next, (run reentering twoReads).2.step? .consumer = some (event, next) ∧
      event.action = .poll ∧ next.consumer.answers = [.entry (some 1), .entry none] ∧
      Overtaken (run reentering twoReads).1 := by
  have moved := (Option.some_get (by decide +kernel :
    ((run reentering twoReads).2.step? .consumer).isSome = true)).symm
  have explained := empty_read_explained 0 _ _ reentering _ _ moved (by decide +kernel)
    (by decide +kernel)
  rcases explained with none_ended | read | overtaken
  · exact absurd none_ended (by decide +kernel)
  · exact absurd read (by decide +kernel)
  · exact ⟨_, _, moved, by decide +kernel, by decide +kernel, overtaken⟩

/-- A read may find nothing although the last write to end was not read, nor any later one. -/
theorem empty_read_untruthful :
    ¬ ∀ (initial : Int) (values : List Int) (reads : Nat) (schedule : List Side),
      let start := new (.new initial) (values.map fun value => .access (.write value))
        (List.replicate reads (.access .read))
      let events := (run schedule start).1
      let r := (run schedule start).2
      let h := history schedule start
      ∀ event next, r.step? .consumer = some (event, next) → event.action = .poll →
        next.consumer.answers = r.consumer.answers ++ [.entry none] →
        events.countP Event.endsWrite = 0 ∨
          ∃ access ∈ h.reads, events.countP Event.endsWrite ≤ access.number := by
  intro truthful
  have moved := (Option.some_get (by decide +kernel :
    ((run reentering twoReads).2.step? .consumer).isSome = true)).symm
  have claimed := truthful 0 [1, 2, 3] 2 reentering _ _ moved (by decide +kernel)
    (by decide +kernel)
  exact absurd claimed (by decide +kernel)

end Handover.Race
