import Handover.Proofs.Race.Freshness
import Handover.Proofs.Word.Regions

/-!
# Answers that stay valid

A consumer with no read access open that has seen something to read will find something to read, for
as long as it does not close a read access: the producer takes a value from the front only when it
puts a newer one there.  A consumer that has seen nothing finds nothing until the producer makes an
access, whatever it tries.
-/

namespace Handover.Race

variable {α : Type}

/-! ## Something to read -/

/-- The access closes a read access. -/
def Event.releases (e : Event) : Bool :=
  e.side = .consumer ∧ e.action = .release

section

variable {b after : Buffer α} {action : Action}

/-- The producer leaves something to read wherever there was something, though it may be another
value in the other cell. -/
theorem WriteMove.stays_ready {writer next : WritePhase α}
    (move : WriteMove b writer after next action) (ready : b.word.isReady = true) :
    after.word.isReady = true := by
  rw [Word.isReady_eq] at ready ⊢
  cases move with
  | look same stays | prepare began same goes | miss began missed same goes => rwa [same]
  | enter began word value cells fills => rwa [word]
  | resume began word value cells fills => rwa [word]
  | publish began word cells goes =>
      rw [word]
      exact (Fields.get_fresh_published_of_ne Fields.front_ne_back).trans ready
  | present began vacant fresh word cells goes =>
      rw [word, Fields.front_presented,
        Fields.get_fresh_presented_of_ne Fields.front_ne_back.symm]
      exact (b.word.fresh_fields _).trans fresh

/-- The consumer leaves something to read until it closes a read access.  It has no exchange to make
then, as that would be for a drained front cell. -/
theorem ReadMove.stays_ready {reader next : ReadPhase α} {told : List (Answer α)}
    (move : ReadMove b reader after next told action) (ready : b.word.isReady = true)
    (keeps : action ≠ .release) : after.word.isReady = true := by
  cases move with
  | look began same | pollEmpty began empty same | pollReady began found same
  | miss began missed same => rwa [same]
  | lookOn began word quiet tells uses => rwa [word]
  | enter began word uses tells =>
      rw [Word.isReady_eq] at ready ⊢
      rwa [word]
  | release => exact absurd rfl keeps
  | turn began vacant fresh drained word cells goes silent =>
      exact absurd (drained.symm.trans ready) Bool.false_ne_true

end

theorem Move.stays_ready {r next : Race α} {event : Event} (move : Move r next event)
    (ready : r.buffer.word.isReady = true) (keeps : event.releases = false) :
    next.buffer.word.isReady = true := by
  cases move with
  | producer kept move => exact move.stays_ready ready
  | consumer kept known move =>
      refine move.stays_ready ready ?_
      rintro rfl
      simp [Event.releases] at keeps

/-- Something to read stays through any run in which no read access is closed. -/
theorem IsCoherent.stays_ready [Add α] {r : Race α} (coherent : r.IsCoherent)
    (ready : r.buffer.word.isReady = true) (later : List Side)
    (keeps : ∀ e ∈ (run later r).1, e.releases = false) :
    (run later r).2.buffer.word.isReady = true := by
  induction later generalizing r with
  | nil => exact ready
  | cons side rest induction =>
      simp only [run] at keeps ⊢
      cases moved : r.step? side with
      | none =>
          rw [moved] at keeps
          exact induction coherent ready keeps
      | some found =>
          rw [moved] at keeps
          have move := coherent.move moved
          obtain ⟨now, afterwards⟩ := List.forall_mem_cons.mp keeps
          exact induction (coherent.step move) (move.stays_ready ready now) afterwards

/-- A poll that finds something to read is followed by a delivery. -/
theorem IsCoherent.delivers_of_polled [Add α] {r next : Race α} {event : Event}
    (coherent : r.IsCoherent) (ready : r.buffer.word.isReady = true)
    (moved : r.step? .consumer = some (event, next)) (polls : event.action = .poll) :
    next.Delivers := by
  obtain ⟨-, found⟩ := coherent.polled moved polls
  rcases found with ⟨-, ⟨how, entering⟩, -⟩ | ⟨empty, -⟩
  · exact (coherent.step (coherent.move moved)).delivers entering
  · exact absurd (empty.symm.trans ready) Bool.false_ne_true

/-! ## Nothing to read -/

/-- The answer tells of nothing to read, and delivers nothing. -/
def Answer.FindsNothing (answer : Answer α) : Prop :=
  answer ≠ .truth true ∧ answer.delivered? = none

/-- With no access open and nothing to read, the consumer finds nothing and changes nothing. -/
theorem Consumer.finds_nothing {b after : Buffer α} {p q : Consumer α} {action : Action}
    (idle : p.phase = .idle) (empty : b.word.isReady = false)
    (moved : p.step? b = some (action, after, q)) :
    after = b ∧ q.phase = .idle ∧
      ∃ answer, q.answers = p.answers ++ [answer] ∧ answer.FindsNothing := by
  obtain ⟨program, phase, answers⟩ := p
  obtain rfl : phase = .idle := idle
  cases program with
  | nil => simp [step?] at moved
  | cons task rest =>
      cases task with
      | access take =>
          simp only [step?, poll, empty] at moved
          cases moved
          refine ⟨rfl, rfl, _, rfl, ?_, rfl⟩
          rintro ⟨⟩
      | ask =>
          simp only [step?, lookAnswer?, empty] at moved
          cases moved
          refine ⟨rfl, rfl, _, rfl, ?_, rfl⟩
          rintro ⟨⟩
      | inspect =>
          cases moved
          refine ⟨rfl, rfl, _, rfl, ?_, rfl⟩
          rintro ⟨⟩

/-- However often the consumer tries while the producer makes no access, it finds nothing. -/
theorem finds_nothing_run [Add α] (turns : Nat) {r : Race α} (idle : r.consumer.phase = .idle)
    (empty : r.buffer.word.isReady = false) :
    (run (List.replicate turns .consumer) r).2.buffer = r.buffer ∧
      ∃ told, (run (List.replicate turns .consumer) r).2.consumer.answers =
          r.consumer.answers ++ told ∧ ∀ answer ∈ told, answer.FindsNothing := by
  induction turns generalizing r with
  | zero => exact ⟨rfl, [], (List.append_nil _).symm, nofun⟩
  | succ turns induction =>
      simp only [List.replicate_succ, run]
      cases moved : r.step? .consumer with
      | none => exact induction idle empty
      | some found =>
          obtain ⟨⟨action, buffer, consumer⟩, made, rest⟩ := Option.map_eq_some_iff.mp moved
          cases rest
          obtain ⟨rfl, stays, answer, answered, finds⟩ :=
            Consumer.finds_nothing idle empty made
          obtain ⟨same, told, answers, find⟩ := induction (r := { r with consumer }) stays empty
          refine ⟨same, answer :: told, ?_, List.forall_mem_cons.mpr ⟨finds, find⟩⟩
          rw [answers]
          simp [answered]

/-! ## The answers of a consumer -/

/-- With no access open, the consumer that asks is told whether there is something to read. -/
theorem Consumer.isReady_of_told {b after : Buffer α} {p q : Consumer α} {action : Action}
    {holds : Bool} (idle : p.phase = .idle) (moved : p.step? b = some (action, after, q))
    (told : q.answers = p.answers ++ [.truth holds]) : b.word.isReady = holds := by
  obtain ⟨program, phase, answers⟩ := p
  obtain rfl : phase = .idle := idle
  cases program with
  | nil => simp [step?] at moved
  | cons task rest =>
      cases task with
      | access take =>
          simp only [step?, poll] at moved
          cases moved
          split at told <;> simp [finish] at told
      | ask =>
          cases moved
          simpa [finish] using told
      | inspect =>
          cases moved
          simp [finish] at told

/-- A look or a poll with no read access open begins with nothing in hand. -/
theorem ReadMove.idle {b after : Buffer α} {reader next : ReadPhase α} {told : List (Answer α)}
    {action : Action} (move : ReadMove b reader after next told action)
    (closed : reader.openCell = none) (looks : action = .look ∨ action = .poll) :
    reader = .idle ∧ after = b ∧ (b.word.isReady = false → next = .idle) := by
  cases move with
  | look began same goes quiet tells => exact ⟨began, same, fun _ => goes⟩
  | pollEmpty began empty same goes tells => exact ⟨began, same, fun _ => goes⟩
  | pollReady began ready same goes silent =>
      exact ⟨began, same, fun empty => absurd (empty.symm.trans ready) Bool.false_ne_true⟩
  | lookOn began word quiet tells uses =>
      rw [began] at closed
      cases closed
  | enter | release | turn | miss => simp at looks

/-- What a consumer with no read access open sees when it looks at the word, to answer a question or
to begin a read, stays valid.  If there is something to read, there is something to read until the
consumer closes a read access, whatever the producer does meanwhile, and a read that is begun within
that time delivers a value.  If there is nothing, then the consumer, however it goes on, is told of
nothing and delivered nothing before the producer makes a further access. -/
theorem seen_stays_valid [Add α] (buffer : Buffer α) (producer : List (Task (Put α)))
    (consumer : List (Task (Take α))) (schedule : List Side) :
    let r := (run schedule (new buffer producer consumer)).2
    ∀ event next, r.step? .consumer = some (event, next) → r.consumer.phase.openCell = none →
      event.action = .look ∨ event.action = .poll →
      (∀ holds, next.consumer.answers = r.consumer.answers ++ [.truth holds] →
        event.before.isReady = holds) ∧
      (event.before.isReady = true →
        (event.action = .poll → next.Delivers) ∧
        ∀ later, (∀ e ∈ (run later next).1, e.releases = false) →
          (run later next).2.buffer.word.isReady = true ∧
          ∀ polling last, (run later next).2.step? .consumer = some (polling, last) →
            polling.action = .poll → last.Delivers) ∧
      (event.before.isReady = false → ∀ turns,
        (run (List.replicate turns .consumer) next).2.buffer = next.buffer ∧
        ∃ told, (run (List.replicate turns .consumer) next).2.consumer.answers =
            next.consumer.answers ++ told ∧ ∀ answer ∈ told, answer.FindsNothing) := by
  intro r event next moved closed looks
  have coherent : r.IsCoherent := isCoherent_run buffer producer consumer schedule
  have move := coherent.move moved
  have after := coherent.step move
  have told {holds : Bool} (idle : r.consumer.phase = .idle)
      (answered : next.consumer.answers = r.consumer.answers ++ [.truth holds]) :
      r.buffer.word.isReady = holds := by
    obtain ⟨⟨action, buffer, consumer⟩, made, rest⟩ := Option.map_eq_some_iff.mp moved
    cases rest
    exact Consumer.isReady_of_told idle made answered
  cases move with
  | producer kept move => cases side_of_step? moved
  | @consumer action answers kept known move =>
      obtain ⟨idle, same, nothing⟩ := move.idle closed looks
      refine ⟨fun holds => told idle, ?_, ?_⟩
      · intro ready
        have ready : r.buffer.word.isReady = true := ready
        refine ⟨coherent.delivers_of_polled ready moved, ?_⟩
        intro later keeps
        have stays := after.stays_ready (same ▸ ready) later keeps
        refine ⟨stays, ?_⟩
        intro polling last polled
        exact (after.after_run later).delivers_of_polled stays polled
      · intro empty
        refine fun turns => finds_nothing_run turns (nothing empty) ?_
        rwa [same]

/-- Two writes, and a question before a read. -/
def asksFirst : Race Nat :=
  new (.new 0) [.access (.write 1), .access (.write 2)] [.ask, .access .read]

/-- The consumer has asked after the first write, and found something to read. -/
def hasAsked : Race Nat :=
  (run (List.replicate 4 .producer ++ [.consumer]) asksFirst).2

/-- The second write turns the cells and clears the flag that the consumer saw when it asked.  The
read that is begun then delivers all the same. -/
theorem seen_stays_valid_turning :
    hasAsked.consumer.answers = [.truth true] ∧
      (run (List.replicate 4 .producer) hasAsked).2.buffer.word.isFresh
        hasAsked.buffer.word.front = false ∧
      ∃ polling last, (run (List.replicate 4 .producer) hasAsked).2.step? .consumer =
          some (polling, last) ∧
        polling.action = .poll ∧ last.Delivers := by
  have moved : (run (List.replicate 4 .producer) asksFirst).2.step? .consumer =
      some (⟨.consumer, .look, ⟨9⟩, ⟨9⟩⟩, hasAsked) := by decide +kernel
  have polled := (Option.some_get (by decide +kernel :
    ((run (List.replicate 4 .producer) hasAsked).2.step? .consumer).isSome = true)).symm
  obtain ⟨-, found, -⟩ := seen_stays_valid (.new 0) _ _ (List.replicate 4 .producer) _ _ moved
    (by decide +kernel) (.inl rfl)
  obtain ⟨-, stays⟩ := found (by decide +kernel)
  obtain ⟨-, delivers⟩ := stays (List.replicate 4 .producer) (by decide +kernel)
  exact ⟨by decide +kernel, by decide +kernel, _, _, polled, by decide +kernel,
    delivers _ _ polled (by decide +kernel)⟩

end Handover.Race
