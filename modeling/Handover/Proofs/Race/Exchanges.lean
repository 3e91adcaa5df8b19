import Handover.Proofs.Race.LastUpdate

/-!
# Exchanges

A side attempts an exchange that it owes once, and the attempt compares nothing but the word.  Two
facts make up for that.  While nobody is inside and the back cell is fresh, some side is about to
exchange the very word that is there, so that an attempt fails only if somebody came in, or nothing
has to be brought to the front, or the other side can still do it.  And an exchange that takes place
is right whatever became of the word since it was owed, even if the word changed and came back: it
brings the newest publication to the front and gives up none but an older one.
-/

namespace Handover.Race

variable {α : Type}

namespace Side

/-- The other party. -/
def other : Side → Side
  | producer => consumer
  | consumer => producer

/-- The word that a side leaves when its exchange takes place. -/
def exchanged : Side → Word → Word
  | producer, w => w.presented
  | consumer, w => w.turned

end Side

/-! ## Exchanges that stay owed -/

/-- A side is about to exchange the word that is there. -/
def Exchanges (r : Race α) : Side → Prop
  | .producer => r.producer.phase.Exchanges r.buffer.word
  | .consumer => r.consumer.phase.Exchanges r.buffer.word

/-- Its exchange takes place if this side makes the next access. -/
theorem Exchanges.step? [Add α] {r : Race α} {side : Side} (exchanges : r.Exchanges side) :
    ∃ event next, r.step? side = some (event, next) ∧ event.action = .exchange true := by
  obtain ⟨b, ⟨written, writer, wrote⟩, ⟨read, reader, answers⟩⟩ := r
  cases side with
  | producer =>
      obtain ⟨owed, answer, rfl, expected⟩ := exchanges
      have found : b.word = owed.expected := expected.symm
      simp [Race.step?, Producer.step?, Producer.exchange, found, Exchange.attempt_expected]
  | consumer =>
      obtain ⟨owed, answer, rfl, expected⟩ := exchanges
      have found : b.word = owed.expected := expected.symm
      simp [Race.step?, Consumer.step?, Consumer.exchange, found, Exchange.attempt_expected]

/-- A side whose exchange failed owes none any more. -/
theorem Move.not_exchanges {r next : Race α} {event : Event} (move : Move r next event)
    (failed : event.action = .exchange false) : ¬ next.Exchanges event.side := by
  intro exchanges
  cases move with
  | producer kept move =>
      obtain ⟨owed, answer, owing, -⟩ := exchanges
      cases move with
      | miss began missed same goes => cases goes.symm.trans owing
      | look | enter | resume | prepare | publish | present => cases failed
  | consumer kept known move =>
      obtain ⟨owed, answer, owing, -⟩ := exchanges
      cases move with
      | miss began missed same goes silent => cases goes.symm.trans owing
      | look | lookOn | pollEmpty | pollReady | enter | release | turn => cases failed

theorem Attended.exchanges {r : Race α}
    (attended : Attended r.buffer.word r.producer.phase r.consumer.phase)
    (vacant : r.buffer.word.openCount = 0)
    (fresh : r.buffer.word.isFresh r.buffer.word.back = true) : ∃ side, r.Exchanges side := by
  rcases attended vacant fresh with writer | reader
  · exact ⟨.producer, writer⟩
  · exact ⟨.consumer, reader⟩

/-- While nobody is inside and the back cell is fresh, some side is about to exchange the word that
is there.  So a side whose exchange fails leaves an access open, or nothing to bring to the front,
or the exchange to the other side, which makes it if it comes next. -/
theorem exchange_stays_owed [Add α] (initial : α) (producer : List (Task (Put α)))
    (consumer : List (Task (Take α))) (schedule : List Side) :
    let r := (run schedule (new (.new initial) producer consumer)).2
    (r.buffer.word.openCount = 0 → r.buffer.word.isFresh r.buffer.word.back = true →
      ∃ side, r.Exchanges side) ∧
    ∀ side event next, r.step? side = some (event, next) → event.action = .exchange false →
      (next.producer.phase.openCell ≠ none ∨ next.consumer.phase.openCell ≠ none) ∨
        next.buffer.word.isFresh next.buffer.word.back = false ∨
        ∃ answering last, next.step? side.other = some (answering, last) ∧
          answering.action = .exchange true := by
  intro r
  have coherent : r.IsCoherent := isCoherent_run (.new initial) producer consumer schedule
  have attended := attended_run initial producer consumer schedule
  refine ⟨attended.exchanges, ?_⟩
  intro side event next moved failed
  have move := coherent.move moved
  have after := coherent.step move
  by_cases busy : next.producer.phase.openCell ≠ none ∨ next.consumer.phase.openCell ≠ none
  · exact .inl busy
  rw [not_or, not_not, not_not] at busy
  have vacant : next.buffer.word.openCount = 0 := by
    have count := after.count
    rw [busy.1, busy.2] at count
    exact count
  refine .inr ?_
  cases fresh : next.buffer.word.isFresh next.buffer.word.back
  · exact .inl rfl
  obtain ⟨owing, exchanges⟩ := (attended.step move).exchanges vacant fresh
  have missed : ¬ next.Exchanges side := by
    rw [← side_of_step? moved]
    exact move.not_exchanges failed
  have turn : owing = side.other := by
    cases owing <;> cases side <;> first | rfl | exact absurd exchanges missed
  rw [← turn]
  exact .inr exchanges.step?

/-- The producer publishes again, and a read comes in and goes out before the exchange: the producer
fails, and the consumer owes an exchange of the word it left. -/
def yielding : List Side :=
  List.replicate 7 .producer ++ List.replicate 3 .consumer

theorem exchange_stays_owed_yielding :
    ∃ event next, (run yielding threeWrites).2.step? .producer = some (event, next) ∧
      event.action = .exchange false ∧
      ∃ answering last, next.step? .consumer = some (answering, last) ∧
        answering.action = .exchange true := by
  have moved := (Option.some_get
    (by decide +kernel : ((run yielding threeWrites).2.step? .producer).isSome = true)).symm
  have owed := (exchange_stays_owed 0 _ _ yielding).2 .producer _ _ moved (by decide +kernel)
  refine ⟨_, _, moved, by decide +kernel, ?_⟩
  rcases owed with (written | read) | drained | answered
  · exact absurd written (by decide +kernel)
  · exact absurd read (by decide +kernel)
  · exact absurd drained (by decide +kernel)
  · exact answered

/-! ## Exchanges that take place -/

/-- What an exchange does to the cells, given the history of the race up to it. -/
structure BringsNewest (h : History α) (side : Side) (r next : Race α) : Prop where
  /-- No access is open. -/
  vacant : r.producer.phase.openCell = none ∧ r.consumer.phase.openCell = none
  word : next.buffer.word = side.exchanged r.buffer.word
  turned : next.buffer.word.front = r.buffer.word.back ∧
    next.buffer.word.back = r.buffer.word.front
  /-- The newest publication is in the cell that comes to the front. -/
  newest : h.latest.get next.buffer.word.front = h.count
  fresh : next.buffer.word.isFresh next.buffer.word.front = true
  value : h.published.getLast? = some (next.buffer.load next.buffer.word.front)
  drained : next.buffer.word.isFresh next.buffer.word.back = false
  /-- A value is given up by the producer alone, and for a newer one. -/
  superseded : ∀ c, r.buffer.word.isFresh c = true → next.buffer.word.isFresh c = false →
    side = .producer ∧ h.latest.get c < h.count
  /-- No value becomes fresh. -/
  kept : ∀ c, next.buffer.word.isFresh c = true → r.buffer.word.isFresh c = true

theorem ReadPhase.spent_eq_none {reader : ReadPhase α} (closed : reader.openCell = none) :
    reader.spent = none := by
  cases reader with
  | leaked c | releasing c answer => cases closed
  | idle | entering how | exchanging owed answer | stopped fault => rfl

/-- While nobody is inside, a fresh back cell contains the newest publication. -/
theorem Recorded.back_newest {h : History α} {r : Race α} (recorded : Recorded h r)
    (vacant : r.buffer.word.openCount = 0)
    (fresh : r.buffer.word.isFresh r.buffer.word.back = true) :
    h.latest.get r.buffer.word.back = h.count ∧
      h.published.getLast? = some (r.buffer.load r.buffer.word.back) := by
  have closed := Coherent.closed recorded.coherent vacant
  have marked : r.buffer.word.fields.fresh.get r.buffer.word.back = true :=
    (Word.fresh_fields _ _).trans fresh
  have number : h.latest.get r.buffer.word.back = h.count := recorded.tally.back marked
  refine ⟨number, ?_⟩
  rw [← History.valueAt_count, ← number]
  apply recorded.stored _ marked
  · rw [closed.1]
    exact (Option.some_ne_none _).symm
  · rw [ReadPhase.spent_eq_none closed.2]
    exact (Option.some_ne_none _).symm

/-- While the back cell is fresh, what is fresh in front is an older publication. -/
theorem Recorded.front_superseded {h : History α} {r : Race α} (recorded : Recorded h r)
    (back : r.buffer.word.isFresh r.buffer.word.back = true)
    (front : r.buffer.word.isFresh r.buffer.word.front = true) :
    h.latest.get r.buffer.word.front < h.count :=
  recorded.tally.superseded ((Word.fresh_fields _ _).trans back)
    ((Word.fresh_fields _ _).trans front)

/-- Bringing a fresh back cell to the front, while nobody is inside, is right as long as a consumer
finds nothing fresh in front. -/
theorem Recorded.presents {h : History α} {r next : Race α} {side : Side}
    (recorded : Recorded h r) (vacant : r.buffer.word.openCount = 0)
    (fresh : r.buffer.word.isFresh r.buffer.word.back = true)
    (careful : r.buffer.word.isFresh r.buffer.word.front = true → side = .producer)
    (exchanged : next.buffer.word = side.exchanged r.buffer.word)
    (word : next.buffer.word.fields = r.buffer.word.fields.presented)
    (cells : next.buffer.cells = r.buffer.cells) : BringsNewest h side r next := by
  have newest := recorded.back_newest vacant fresh
  have front : next.buffer.word.front = r.buffer.word.back :=
    (congrArg Fields.front word).trans Fields.front_presented
  have back : next.buffer.word.back = r.buffer.word.front := congrArg Fields.back word
  have cleared : next.buffer.word.isFresh r.buffer.word.front = false := by
    rw [← Word.fresh_fields, word]
    exact Fields.get_fresh_presented
  have others {c : Cell} (other : c ≠ r.buffer.word.front) :
      next.buffer.word.isFresh c = r.buffer.word.isFresh c := by
    rw [← Word.fresh_fields, word, ← Word.fresh_fields]
    exact Fields.get_fresh_presented_of_ne other
  constructor
  · exact Coherent.closed recorded.coherent vacant
  · exact exchanged
  · exact ⟨front, back⟩
  · rw [front]
    exact newest.1
  · rw [front]
    exact (others (Cell.other_ne _).symm).trans fresh
  · rw [front, newest.2]
    exact congrArg some (congrArg (Cells.get · _) cells.symm)
  · rw [back]
    exact cleared
  · intro c there gone
    obtain rfl : c = r.buffer.word.front := by
      by_contra other
      exact absurd ((others other).symm.trans gone) (by simp [there])
    exact ⟨careful there, recorded.front_superseded fresh there⟩
  · intro c there
    have other : c ≠ r.buffer.word.front := by
      rintro rfl
      exact absurd (cleared.symm.trans there) Bool.false_ne_true
    exact (others other).symm.trans there

/-- Whenever an exchange takes place, nobody is inside, the newest publication comes to the front,
and none but an older one is given up, whatever happened to the word since the exchange was owed. -/
theorem exchanges_bring_newest [Add α] (initial : α) (producer : List (Task (Put α)))
    (consumer : List (Task (Take α))) (schedule : List Side) {side : Side} {event : Event}
    {next : Race α}
    (moved : (run schedule (new (.new initial) producer consumer)).2.step? side =
      some (event, next))
    (succeeded : event.action = .exchange true) :
    BringsNewest (history schedule (new (.new initial) producer consumer)) side
      (run schedule (new (.new initial) producer consumer)).2 next := by
  have recorded := recorded_history initial producer consumer schedule
  rw [← side_of_step? moved]
  cases recorded.coherent.move moved with
  | producer kept move =>
      cases move with
      | present began vacant fresh word cells goes =>
          refine recorded.presents vacant fresh (fun _ => rfl) ?_ word cells
          exact Word.fields_injective (word.trans (Word.fields_presented _).symm)
      | look | enter | resume | prepare | publish | miss => cases succeeded
  | consumer kept known move =>
      cases move with
      | turn began vacant fresh drained word cells goes silent =>
          refine recorded.presents vacant fresh ?_ ?_ ?_ cells
          · intro there
            exact absurd (drained.symm.trans there) Bool.false_ne_true
          · exact Word.fields_injective (word.trans (Word.fields_turned _).symm)
          · exact word.trans (Fields.turned_eq_presented ((Word.fresh_fields _ _).trans drained))
      | look | lookOn | pollEmpty | pollReady | enter | release | miss => cases succeeded

/-- The second write is published during a read, whose end leaves an exchange to the consumer.  The
third write is published in the same cell before the exchange, so that the word has come back. -/
def returning : List Side :=
  List.replicate 4 .producer ++ List.replicate 2 .consumer ++ List.replicate 3 .producer ++
    [.consumer] ++ List.replicate 3 .producer

theorem exchanges_bring_newest_returning :
    ∃ event next, (run returning threeWrites).2.step? .consumer = some (event, next) ∧
      event.action = .exchange true ∧
      BringsNewest (history returning threeWrites) .consumer (run returning threeWrites).2 next ∧
      next.buffer.load next.buffer.word.front = 3 := by
  have moved := (Option.some_get
    (by decide +kernel : ((run returning threeWrites).2.step? .consumer).isSome = true)).symm
  exact ⟨_, _, moved, by decide +kernel,
    exchanges_bring_newest 0 _ _ returning moved (by decide +kernel), by decide +kernel⟩

end Handover.Race
