import Handover.Proofs.Race.Moves

/-!
# Coherent races

Every access leaves the word coherent with the places at which the two sides stand.  Hence each side
has the cell of its open access to itself and keeps it until it closes the access, whatever the
other side does meanwhile, and no access of either side ever faults.
-/

namespace Handover.Race

variable {α : Type}

/-! ## What the other side may do -/

namespace ReadPhase

variable {f : Fields} {reader : ReadPhase α}

theorem Fits.entered (fits : reader.Fits f) : reader.Fits f.entered := by
  cases reader <;> exact fits

theorem Fits.published (fits : reader.Fits f) : reader.Fits f.published := by
  have kept : f.published.fresh.get f.front = f.fresh.get f.front :=
    Fields.get_fresh_published_of_ne Fields.front_ne_back
  cases reader with
  | idle | exchanging owed answer | stopped fault => exact fits
  | leaked c | releasing c answer =>
      obtain ⟨rfl, fresh⟩ : c = f.front ∧ f.fresh.get c = true := fits
      exact ⟨rfl, kept.trans fresh⟩
  | entering how => exact kept.trans fits

/-- A swap by the producer leaves something to read to a consumer that is about to come in, though
it may be in the other cell by then. -/
theorem Fits.presented (fits : reader.Fits f) (closed : reader.openCell = none)
    (fresh : f.fresh.get f.back = true) : reader.Fits f.presented := by
  cases reader with
  | idle | exchanging owed answer | stopped fault => exact fits
  | leaked c | releasing c answer => simp [openCell] at closed
  | entering how =>
      change f.presented.fresh.get f.presented.front = true
      rw [Fields.front_presented, Fields.get_fresh_presented_of_ne Fields.front_ne_back.symm, fresh]

end ReadPhase

namespace WritePhase

variable {f : Fields} {writer : WritePhase α}

theorem Fits.entered (fits : writer.Fits f) : writer.Fits f.entered := by
  cases writer <;> exact fits

theorem Fits.released (fits : writer.Fits f) : writer.Fits (f.released f.front) := by
  have kept : (f.released f.front).fresh.get f.back = f.fresh.get f.back :=
    Fields.get_fresh_released_of_ne Fields.front_ne_back.symm
  cases writer with
  | idle | leaked c | filled c answer | exchanging owed answer | stopped fault => exact fits
  | publishing c addend answer =>
      obtain ⟨back, rfl⟩ : c = f.back ∧ addend = f.publishAddend := fits
      refine ⟨back, ?_⟩
      change f.publishAddend =
        (if (f.released f.front).fresh.get f.back then 0 else f.back.flag) - Word.oneAccess
      rw [kept]
      rfl

theorem Fits.turned (fits : writer.Fits f) (closed : writer.openCell = none) :
    writer.Fits f.turned := by
  cases writer with
  | idle | exchanging owed answer | stopped fault => exact fits
  | leaked c | filled c answer | publishing c addend answer => simp [openCell] at closed

end WritePhase

/-! ## One access -/

theorem WritePhase.Fills.openCell {c : Cell} {next : WritePhase α} (fills : next.Fills c) :
    next.openCell = some c := by
  rcases fills with rfl | ⟨answer, rfl⟩ <;> rfl

theorem WritePhase.Fills.fits {f : Fields} {next : WritePhase α} (fills : next.Fills f.back) :
    next.Fits f := by
  rcases fills with rfl | ⟨answer, rfl⟩ <;> exact rfl

theorem ReadPhase.Uses.openCell {c : Cell} {b after : Buffer α} {next : ReadPhase α}
    {told : List (Answer α)} (uses : Uses c b after next told) : next.openCell = some c := by
  rcases uses.cells with ⟨-, rfl⟩ | ⟨value, answer, -, rfl⟩ <;> rfl

theorem ReadPhase.Uses.fits {c : Cell} {b after : Buffer α} {next : ReadPhase α}
    {told : List (Answer α)} {f : Fields} (uses : Uses c b after next told) (front : c = f.front)
    (fresh : f.fresh.get c = true) : next.Fits f := by
  rcases uses.cells with ⟨-, rfl⟩ | ⟨value, answer, -, rfl⟩ <;> exact ⟨front, fresh⟩

/-- With no access counted, none is open. -/
theorem Coherent.closed {f : Fields} {writer : WritePhase α} {reader : ReadPhase α}
    (coherent : Coherent f writer reader) (vacant : f.openCount = 0) :
    writer.openCell = none ∧ reader.openCell = none := by
  have count := coherent.count
  rw [vacant] at count
  have none_open := List.append_eq_nil_iff.mp (List.eq_nil_of_length_eq_zero count.symm)
  exact ⟨Option.toList_eq_nil_iff.mp none_open.1, Option.toList_eq_nil_iff.mp none_open.2⟩

/-- Every access of the producer leaves the word coherent. -/
theorem Coherent.write {b after : Buffer α} {writer next : WritePhase α} {reader : ReadPhase α}
    {action : Action} (coherent : Coherent b.word.fields writer reader)
    (move : WriteMove b writer after next action) : Coherent after.word.fields next reader := by
  obtain ⟨count, stands, fits⟩ := coherent
  cases move with
  | look same stays =>
      rw [same, stays]
      exact ⟨count, stands, fits⟩
  | enter began word value cells fills =>
      rw [word]
      refine ⟨?_, fills.fits, fits.entered⟩
      rw [fills.openCell, Fields.entered, count, began]
      simp [WritePhase.openCell]
  | @resume c began word value cells fills =>
      rw [began] at count stands
      obtain rfl : c = b.word.back := stands
      rw [word]
      refine ⟨?_, fills.fits, fits⟩
      rw [fills.openCell, count]
      rfl
  | prepare began same goes =>
      rw [began] at count stands
      rw [same, goes]
      exact ⟨count, ⟨stands, rfl⟩, fits⟩
  | publish began word cells goes =>
      rw [began] at count
      have left : after.word.openCount = b.word.openCount - 1 := congrArg Fields.openCount word
      have closed : after.word.openCount = reader.openCell.toList.length := by
        rw [left, ← Word.openCount_fields, count]
        simp [WritePhase.openCell]
      have reader_fits : reader.Fits after.word.fields := by
        rw [word]
        exact fits.published
      rcases goes with ⟨-, rfl⟩ | ⟨vacant, rfl⟩
      · exact ⟨closed, trivial, reader_fits⟩
      · exact ⟨closed, ⟨rfl, vacant, Word.isFresh_of_published word⟩, reader_fits⟩
  | present began vacant fresh word cells goes =>
      have closed := Coherent.closed ⟨count, stands, fits⟩ vacant
      rw [word, goes]
      refine ⟨?_, trivial, fits.presented closed.2 ((b.word.fresh_fields _).trans fresh)⟩
      rw [closed.2]
      exact vacant
  | miss began missed same goes =>
      rw [began] at count
      rw [same, goes]
      exact ⟨count, trivial, fits⟩

/-- Every access of the consumer leaves the word coherent. -/
theorem Coherent.read {b after : Buffer α} {writer : WritePhase α} {reader next : ReadPhase α}
    {told : List (Answer α)} {action : Action} (coherent : Coherent b.word.fields writer reader)
    (move : ReadMove b reader after next told action) : Coherent after.word.fields writer next := by
  obtain ⟨count, fits, stands⟩ := coherent
  cases move with
  | look began same goes quiet tells =>
      rw [began] at count
      rw [same, goes]
      exact ⟨count, fits, trivial⟩
  | lookOn began word quiet tells uses =>
      rw [began] at count stands
      rw [word]
      refine ⟨?_, fits, uses.fits stands.1 stands.2⟩
      rw [uses.openCell, count]
      rfl
  | pollEmpty began empty same goes tells =>
      rw [began] at count
      rw [same, goes]
      exact ⟨count, fits, trivial⟩
  | pollReady began ready same goes silent =>
      rw [began] at count
      rw [same, goes]
      exact ⟨count, fits, (b.word.fresh_fields _).trans ready⟩
  | enter began word uses tells =>
      rw [began] at count stands
      rw [word]
      refine ⟨?_, fits.entered, uses.fits rfl stands⟩
      rw [uses.openCell, Fields.entered, count]
      simp [ReadPhase.openCell]
  | @release c answer began word cells goes silent =>
      rw [began] at count stands
      obtain ⟨rfl, -⟩ : c = b.word.fields.front ∧ b.word.fields.fresh.get c = true := stands
      have left : after.word.openCount = b.word.openCount - 1 := congrArg Fields.openCount word
      have closed : after.word.openCount = writer.openCell.toList.length := by
        rw [left, ← Word.openCount_fields, count]
        simp [ReadPhase.openCell]
      have writer_fits : writer.Fits after.word.fields := by
        rw [word]
        exact fits.released
      rcases goes with ⟨-, rfl⟩ | ⟨⟨vacant, fresh⟩, rfl⟩
      · exact ⟨closed.trans (by simp [ReadPhase.openCell]), writer_fits, trivial⟩
      · exact ⟨closed.trans (by simp [ReadPhase.openCell]), writer_fits,
          ⟨rfl, vacant, fresh, Word.isFresh_of_released word⟩⟩
  | turn began vacant fresh drained word cells goes silent =>
      have closed := Coherent.closed ⟨count, fits, stands⟩ vacant
      rw [word, goes]
      refine ⟨?_, fits.turned closed.1, trivial⟩
      rw [closed.1]
      exact vacant
  | miss began missed same goes silent =>
      rw [began] at count
      rw [same, goes]
      exact ⟨count, fits, trivial⟩

/-! ## Runs -/

theorem isCoherent_new (buffer : Buffer α) (producer : List (Task (Put α)))
    (consumer : List (Task (Take α))) : (new buffer producer consumer).IsCoherent :=
  ⟨buffer.word.openCount_atRest, trivial, trivial⟩

theorem IsCoherent.step {r next : Race α} {event : Event} (coherent : r.IsCoherent)
    (move : Move r next event) : next.IsCoherent := by
  cases move with
  | producer kept move =>
      rw [IsCoherent, kept]
      exact Coherent.write coherent move
  | consumer kept known move =>
      rw [IsCoherent, kept]
      exact Coherent.read coherent move

theorem IsCoherent.after_run [Add α] {r : Race α} (coherent : r.IsCoherent)
    (schedule : List Side) : (run schedule r).2.IsCoherent := by
  apply recount_induction (motive := fun r _ => r.IsCoherent) (fun _ _ _ _ => ()) _ schedule ()
    coherent
  intro r _ side event next coherent moved
  exact coherent.step (coherent.move moved)

theorem isCoherent_run [Add α] (buffer : Buffer α) (producer : List (Task (Put α)))
    (consumer : List (Task (Take α))) (schedule : List Side) :
    (run schedule (new buffer producer consumer)).2.IsCoherent :=
  (isCoherent_new buffer producer consumer).after_run schedule

/-! ## Faults -/

/-- What an access checks on the word it found or left, given the cell to which the consumer has an
access open. -/
def Event.Lawful (reading : Option Cell) (e : Event) : Prop :=
  match e.side, e.action with
  | .producer, .enter => e.before.openCount < 2
  | .producer, .publish => e.after.isFresh e.after.back = true
  | .consumer, .enter => e.after.openCount ≤ 2 ∧ e.after.isReady = true
  | .consumer, .release =>
      ∃ c, reading = some c ∧ e.before.isFresh c = true ∧ 0 < e.before.openCount
  | _, _ => True

theorem IsCoherent.fault?_eq_none {r : Race α} (coherent : r.IsCoherent) :
    r.producer.fault? = none ∧ r.consumer.fault? = none := by
  have writer := coherent.writer
  have reader := coherent.reader
  constructor
  · unfold Producer.fault?
    split
    · next fault stopped =>
      rw [stopped] at writer
      exact writer.elim
    · rfl
  · unfold Consumer.fault?
    split
    · next fault stopped =>
      rw [stopped] at reader
      exact reader.elim
    · rfl

/-- An access to a coherent word passes every check that it makes. -/
theorem IsCoherent.lawful {r next : Race α} {event : Event} (coherent : r.IsCoherent)
    (move : Move r next event) : event.Lawful r.consumer.phase.openCell := by
  have after := coherent.step move
  have count := coherent.count
  have stands := coherent.reader
  cases move with
  | producer kept move =>
      cases move with
      | look | resume | prepare | present | miss => trivial
      | enter began word value cells fills =>
          exact Coherent.room_to_write coherent (congrArg WritePhase.openCell began)
      | publish began word cells goes => exact Word.isFresh_of_published word
  | consumer kept known move =>
      cases move with
      | look | lookOn | pollEmpty | pollReady | turn | miss => trivial
      | enter began word uses tells =>
          have ready : r.buffer.word.fields.fresh.get r.buffer.word.fields.front = true := by
            rw [began] at stands
            exact stands
          constructor
          · change next.buffer.word.fields.openCount ≤ 2
            rw [after.count, uses.openCell, List.length_append]
            exact Nat.succ_le_succ Option.length_toList_le
          · change next.buffer.word.isFresh next.buffer.word.front = true
            rw [← Word.fresh_fields, ← Word.front_fields, word]
            exact ready
      | release began word cells goes silent =>
          rw [began] at count stands
          refine ⟨_, congrArg ReadPhase.openCell began, ?_, ?_⟩
          · exact (Word.fresh_fields _ _).symm.trans stands.2
          · change 0 < r.buffer.word.fields.openCount
            rw [count]
            simp [ReadPhase.openCell]

/-- Neither side ever faults, and every access passes the checks that it makes, from whatever word
the race is begun. -/
theorem accesses_lawful [Add α] (buffer : Buffer α) (producer : List (Task (Put α)))
    (consumer : List (Task (Take α))) (schedule : List Side) :
    let r := (run schedule (new buffer producer consumer)).2
    r.producer.fault? = none ∧ r.consumer.fault? = none ∧
      ∀ side event next, r.step? side = some (event, next) →
        event.Lawful r.consumer.phase.openCell ∧
          next.producer.fault? = none ∧ next.consumer.fault? = none := by
  have coherent := isCoherent_run buffer producer consumer schedule
  refine ⟨coherent.fault?_eq_none.1, coherent.fault?_eq_none.2, ?_⟩
  intro side event next moved
  have move := coherent.move moved
  exact ⟨coherent.lawful move, (coherent.step move).fault?_eq_none⟩

end Handover.Race
