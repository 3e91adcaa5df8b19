import Handover.Proofs.Word.Fields
import Handover.Race.Run

/-!
# The moves of a race

`Coherent` ties the fields of the word to the places at which the two sides stand.  As long as it
holds no access can fault, and `WriteMove` and `ReadMove` list all that an access can then do, in
terms of the fields.  The statements about whole races go through this list and never through the
programs of the sides.
-/

namespace Handover

namespace Exchange

/-- The exchange presents a published value while nobody is inside. -/
structure Presents (x : Exchange) : Prop where
  desired : x.desired = x.expected.presented
  vacant : x.expected.openCount = 0
  fresh : x.expected.isFresh x.expected.back = true

/-- The exchange brings to the front a value that was published during a read, while nobody is
inside and nothing else waits there. -/
structure Turns (x : Exchange) : Prop where
  desired : x.desired = x.expected.turned
  vacant : x.expected.openCount = 0
  fresh : x.expected.isFresh x.expected.back = true
  drained : x.expected.isFresh x.expected.front = false

end Exchange

namespace Race

variable {α : Type}

/-! ## Coherence -/

/-- What the fields of the word have to be for the place at which the producer stands. -/
def WritePhase.Fits (f : Fields) : WritePhase α → Prop
  | idle => True
  | leaked c | filled c _ => c = f.back
  | publishing c addend _ => c = f.back ∧ addend = f.publishAddend
  | exchanging owed _ => owed.Presents
  | stopped _ => False

/-- What the fields of the word have to be for the place at which the consumer stands. -/
def ReadPhase.Fits (f : Fields) : ReadPhase α → Prop
  | idle => True
  | leaked c | releasing c _ => c = f.front ∧ f.fresh.get c = true
  | entering _ => f.fresh.get f.front = true
  | exchanging owed _ => owed.Turns
  | stopped _ => False

/-- The fields of the word agree with the places at which the two sides stand. -/
structure Coherent (f : Fields) (writer : WritePhase α) (reader : ReadPhase α) : Prop where
  /-- Every access that is open is counted. -/
  count : f.openCount = (writer.openCell.toList ++ reader.openCell.toList).length
  writer : writer.Fits f
  reader : reader.Fits f

theorem Coherent.room_to_write {f : Fields} {writer : WritePhase α} {reader : ReadPhase α}
    (coherent : Coherent f writer reader) (closed : writer.openCell = none) : f.openCount < 2 := by
  rw [coherent.count, closed]
  exact Nat.lt_succ_of_le (Option.length_toList_le (o := reader.openCell))

theorem Coherent.room_to_read {f : Fields} {writer : WritePhase α} {reader : ReadPhase α}
    (coherent : Coherent f writer reader) (closed : reader.openCell = none) : f.openCount < 2 := by
  rw [coherent.count, closed, Option.toList_none, List.append_nil]
  exact Nat.lt_succ_of_le Option.length_toList_le

/-! ## Moves of the producer -/

/-- The producer just filled a cell: it goes on to publish it, or leaks the guard. -/
def WritePhase.Fills (c : Cell) (phase : WritePhase α) : Prop :=
  phase = leaked c ∨ ∃ answer, phase = filled c answer

/-- What an access of the producer can do to a buffer and to the place at which it stands. -/
inductive WriteMove (b : Buffer α) (phase : WritePhase α) (after : Buffer α)
    (next : WritePhase α) : Action → Prop
  | look (same : after = b) (stays : next = phase) : WriteMove b phase after next .look
  | enter (began : phase = .idle) (word : after.word.fields = b.word.fields.entered)
      (value : α) (cells : after.cells = b.cells.set value b.word.back)
      (fills : next.Fills b.word.back) : WriteMove b phase after next .enter
  | resume {c : Cell} (began : phase = .leaked c) (word : after.word = b.word)
      (value : α) (cells : after.cells = b.cells.set value c) (fills : next.Fills c) :
      WriteMove b phase after next .resume
  | prepare {c : Cell} {answer : Answer α} (began : phase = .filled c answer) (same : after = b)
      (goes : next = .publishing c b.word.fields.publishAddend answer) :
      WriteMove b phase after next .prepare
  | publish {c : Cell} {addend : UInt64} {answer : Answer α}
      (began : phase = .publishing c addend answer)
      (word : after.word.fields = b.word.fields.published) (cells : after.cells = b.cells)
      (goes : 0 < after.word.openCount ∧ next = .idle ∨
        after.word.openCount = 0 ∧ next = .exchanging ⟨after.word, after.word.presented⟩ answer) :
      WriteMove b phase after next .publish
  | present {owed : Exchange} {answer : Answer α} (began : phase = .exchanging owed answer)
      (vacant : b.word.openCount = 0) (fresh : b.word.isFresh b.word.back = true)
      (word : after.word.fields = b.word.fields.presented) (cells : after.cells = b.cells)
      (goes : next = .idle) : WriteMove b phase after next (.exchange true)
  | miss {owed : Exchange} {answer : Answer α} (began : phase = .exchanging owed answer)
      (missed : b.word ≠ owed.expected) (same : after = b) (goes : next = .idle) :
      WriteMove b phase after next (.exchange false)

theorem Put.after_fills (c : Cell) (found : α) (put : Put α) : (put.after c found).1.Fills c := by
  cases put with
  | write value => exact .inr ⟨_, rfl⟩
  | add addend => exact .inr ⟨_, rfl⟩
  | leak value => exact .inl rfl

/-- While the word agrees with the sides, the producer makes one of its moves. -/
theorem Coherent.writeMove [Add α] {b after : Buffer α} {p q : Producer α} {reader : ReadPhase α}
    {action : Action} (coherent : Coherent b.word.fields p.phase reader)
    (moved : p.step? b = some (action, after, q)) :
    WriteMove b p.phase after q.phase action := by
  obtain ⟨program, phase, answers⟩ := p
  have count : b.word.openCount = (phase.openCell.toList ++ reader.openCell.toList).length :=
    coherent.count
  have fits : phase.Fits b.word.fields := coherent.writer
  cases phase with
  | idle =>
      cases program with
      | nil => simp [Producer.step?] at moved
      | cons task rest =>
          cases task with
          | access put =>
              have room : b.word.openCount < 2 := coherent.room_to_write rfl
              simp only [Producer.step?, Producer.start, Producer.resumes, Producer.enter,
                Word.enterWrite_eq room, Bool.false_eq_true, if_false, Option.some.injEq,
                Prod.mk.injEq] at moved
              obtain ⟨rfl, rfl, rfl⟩ := moved
              exact .enter rfl (Word.fields_entered (by omega)) _ rfl (Put.after_fills _ _ put)
          | ask | inspect =>
              cases moved
              exact .look rfl rfl
  | leaked c =>
      cases program with
      | nil => simp [Producer.step?] at moved
      | cons task rest =>
          cases task with
          | access put =>
              simp only [Producer.step?, Producer.start, Producer.resumes, if_true,
                Option.some.injEq, Prod.mk.injEq] at moved
              obtain ⟨rfl, rfl, rfl⟩ := moved
              obtain rfl : c = b.word.back := fits
              exact .resume rfl rfl _ rfl (Put.after_fills _ _ put)
          | ask | inspect =>
              cases moved
              exact .look rfl rfl
  | filled c answer =>
      cases moved
      refine .prepare rfl rfl ?_
      rw [Word.publishAddend_fields]
  | publishing c addend answer =>
      obtain ⟨-, rfl⟩ : c = b.word.back ∧ addend = b.word.fields.publishAddend := fits
      have busy : 0 < b.word.openCount := by
        rw [count]
        simp [WritePhase.openCell]
      obtain ⟨left, effect, closed⟩ := Word.publish_eq busy
      simp only [Producer.step?, Producer.publish, Word.publishAddend_fields, closed,
        Word.owedByProducer] at moved
      by_cases vacant : left.openCount = 0
      · rw [if_pos vacant] at moved
        cases moved
        exact .publish rfl effect rfl (.inr ⟨vacant, rfl⟩)
      · rw [if_neg vacant] at moved
        cases moved
        exact .publish rfl effect rfl (.inl ⟨Nat.pos_of_ne_zero vacant, rfl⟩)
  | exchanging owed answer =>
      have presents : owed.Presents := fits
      by_cases found : b.word = owed.expected
      · simp only [Producer.step?, Producer.exchange, found, Exchange.attempt_expected] at moved
        cases moved
        refine .present rfl (found ▸ presents.vacant) (found ▸ presents.fresh) ?_ rfl rfl
        rw [presents.desired, found]
        exact Word.fields_presented _
      · simp only [Producer.step?, Producer.exchange, Exchange.attempt_of_ne owed found] at moved
        cases moved
        exact .miss rfl found rfl rfl
  | stopped fault => exact fits.elim

/-! ## Moves of the consumer -/

namespace Answer

/-- Value delivered by a read, if the answer is that of a read which found one. -/
def delivered? : Answer α → Option α
  | entry found => found
  | done | value _ | truth _ | text _ => none

end Answer

/-- Answer of the task in hand, if it is known already. -/
def ReadPhase.known : ReadPhase α → List (Answer α)
  | releasing _ answer | exchanging _ answer => [answer]
  | idle | leaked _ | entering _ | stopped _ => []

/-- All answers that are known: those of the finished tasks and that of the task in hand. -/
def Consumer.known (p : Consumer α) : List (Answer α) :=
  p.answers ++ p.phase.known

/-- The consumer uses a cell through a guard: the answers tell the value found, and the last of them
may go with a value left behind before the guard is dropped. -/
structure ReadPhase.Uses (c : Cell) (b after : Buffer α) (next : ReadPhase α)
    (told : List (Answer α)) : Prop where
  told : ∀ answer ∈ told, answer = .entry (some (b.load c))
  cells : after.cells = b.cells ∧ next = .leaked c ∨
    ∃ value answer, after.cells = b.cells.set value c ∧ next = .releasing c answer

/-- What an access of the consumer can do to a buffer and to the place at which it stands, and which
answers it makes known. -/
inductive ReadMove (b : Buffer α) (phase : ReadPhase α) (after : Buffer α) (next : ReadPhase α)
    (told : List (Answer α)) : Action → Prop
  | look {answer : Answer α} (began : phase = .idle) (same : after = b) (goes : next = .idle)
      (quiet : answer.delivered? = none) (tells : told = [answer]) :
      ReadMove b phase after next told .look
  | lookOn {c : Cell} {answer : Answer α} {found : List (Answer α)} (began : phase = .leaked c)
      (word : after.word = b.word) (quiet : answer.delivered? = none)
      (tells : told = answer :: found) (uses : ReadPhase.Uses c b after next found) :
      ReadMove b phase after next told .look
  | pollEmpty (began : phase = .idle) (empty : b.word.isReady = false) (same : after = b)
      (goes : next = .idle) (tells : told = [.entry none]) : ReadMove b phase after next told .poll
  | pollReady {how : Take α} (began : phase = .idle) (ready : b.word.isReady = true)
      (same : after = b) (goes : next = .entering how) (silent : told = []) :
      ReadMove b phase after next told .poll
  | enter {how : Take α} (began : phase = .entering how)
      (word : after.word.fields = b.word.fields.entered)
      (uses : ReadPhase.Uses b.word.front b after next told) (tells : told ≠ []) :
      ReadMove b phase after next told .enter
  | release {c : Cell} {answer : Answer α} (began : phase = .releasing c answer)
      (word : after.word.fields = b.word.fields.released c) (cells : after.cells = b.cells)
      (goes : ¬ (after.word.openCount = 0 ∧ after.word.isFresh after.word.back) ∧ next = .idle ∨
        (after.word.openCount = 0 ∧ after.word.isFresh after.word.back) ∧
          next = .exchanging ⟨after.word, after.word.turned⟩ answer)
      (silent : told = []) : ReadMove b phase after next told .release
  | turn {owed : Exchange} {answer : Answer α} (began : phase = .exchanging owed answer)
      (vacant : b.word.openCount = 0) (fresh : b.word.isFresh b.word.back = true)
      (drained : b.word.isFresh b.word.front = false)
      (word : after.word.fields = b.word.fields.turned) (cells : after.cells = b.cells)
      (goes : next = .idle) (silent : told = []) : ReadMove b phase after next told (.exchange true)
  | miss {owed : Exchange} {answer : Answer α} (began : phase = .exchanging owed answer)
      (missed : b.word ≠ owed.expected) (same : after = b) (goes : next = .idle)
      (silent : told = []) : ReadMove b phase after next told (.exchange false)

theorem Consumer.delivered?_lookAnswer? {w : Word} {leaked : Option Cell} {task : Task (Take α)}
    {answer : Answer α} (looked : lookAnswer? w leaked task = some answer) :
    answer.delivered? = none := by
  cases task <;> cases looked <;> rfl

/-- Tasks that resume a leaked access use its cell, and each of them tells what it finds. -/
theorem Consumer.resume_uses (c : Cell) (program : List (Task (Take α))) (b : Buffer α)
    (answers : List (Answer α)) :
    (resume c program b answers).1.word = b.word ∧
      ∃ told, (resume c program b answers).2.known = answers ++ told ∧
        ReadPhase.Uses c b (resume c program b answers).1 (resume c program b answers).2.phase
          told ∧
        ∀ take rest, program = .access take :: rest → told ≠ [] := by
  fun_induction resume c program b answers with
  | case1 rest b answers induction =>
      obtain ⟨word, told, known, uses, -⟩ := induction
      refine ⟨word, .entry (some (b.load c)) :: told, ?_, ⟨?_, uses.cells⟩, by simp⟩
      · rw [known, List.append_assoc]
        rfl
      · intro answer among
        rcases List.mem_cons.mp among with rfl | among
        · rfl
        · exact uses.told answer among
  | case2 rest b answers =>
      refine ⟨rfl, [.entry (some (b.load c))], rfl, ⟨by simp, ?_⟩, by simp⟩
      exact .inr ⟨b.load c, _, (Cells.set_get_self _ _).symm, rfl⟩
  | case3 value rest b answers =>
      refine ⟨rfl, [.entry (some (b.load c))], rfl, ⟨by simp, ?_⟩, by simp⟩
      exact .inr ⟨value, _, rfl, rfl⟩
  | case4 program b answers noLeak noRead noSwap =>
      refine ⟨rfl, [], rfl, ⟨by simp, .inl ⟨rfl, rfl⟩⟩, ?_⟩
      rintro (_ | value | _) rest rfl
      · exact (noRead rest rfl).elim
      · exact (noSwap value rest rfl).elim
      · exact (noLeak rest rfl).elim

/-- While the word agrees with the sides, the consumer makes one of its moves. -/
theorem Coherent.readMove {b after : Buffer α} {p q : Consumer α} {writer : WritePhase α}
    {action : Action} (coherent : Coherent b.word.fields writer p.phase)
    (moved : p.step? b = some (action, after, q)) :
    ∃ told, q.known = p.known ++ told ∧ ReadMove b p.phase after q.phase told action := by
  obtain ⟨program, phase, answers⟩ := p
  have count : b.word.openCount = (writer.openCell.toList ++ phase.openCell.toList).length :=
    coherent.count
  have fits : phase.Fits b.word.fields := coherent.reader
  cases phase with
  | idle =>
      cases program with
      | nil => simp [Consumer.step?] at moved
      | cons task rest =>
          cases task with
          | access take =>
              cases ready : b.word.isReady
              · simp only [Consumer.step?, Consumer.poll, ready] at moved
                cases moved
                exact ⟨[.entry none], by simp [Consumer.known, Consumer.finish, ReadPhase.known],
                  .pollEmpty rfl ready rfl rfl rfl⟩
              · simp only [Consumer.step?, Consumer.poll, ready] at moved
                cases moved
                exact ⟨[], by simp [Consumer.known, ReadPhase.known],
                  .pollReady rfl ready rfl rfl rfl⟩
          | ask | inspect =>
              simp only [Consumer.step?, Option.map_eq_some_iff, Prod.mk.injEq] at moved
              obtain ⟨answer, looked, rfl, rfl, rfl⟩ := moved
              exact ⟨[answer], by simp [Consumer.known, Consumer.finish, ReadPhase.known],
                .look rfl rfl rfl (Consumer.delivered?_lookAnswer? looked) rfl⟩
  | leaked c =>
      cases program with
      | nil => simp [Consumer.step?] at moved
      | cons task rest =>
          cases task with
          | access take => simp [Consumer.step?, Consumer.lookAnswer?] at moved
          | ask | inspect =>
              simp only [Consumer.step?, Option.map_eq_some_iff, Prod.mk.injEq] at moved
              obtain ⟨answer, looked, rfl, resumed⟩ := moved
              obtain ⟨word, told, known, uses, -⟩ :=
                Consumer.resume_uses c rest b (answers ++ [answer])
              rw [resumed] at word known uses
              refine ⟨answer :: told, ?_,
                .lookOn rfl word (Consumer.delivered?_lookAnswer? looked) rfl uses⟩
              rw [known]
              simp [Consumer.known, ReadPhase.known]
  | entering how =>
      have room : b.word.openCount < 2 := coherent.room_to_read rfl
      have ready : b.word.isReady = true := (b.word.fresh_fields _).symm.trans fits
      simp only [Consumer.step?, Consumer.enter, Word.enterRead_eq room ready, Option.some.injEq,
        Prod.mk.injEq] at moved
      obtain ⟨rfl, resumed⟩ := moved
      obtain ⟨word, told, known, uses, tells⟩ :=
        Consumer.resume_uses b.word.front (.access how :: program)
          { b with word := b.word.entered } answers
      rw [resumed] at word known uses
      refine ⟨told, ?_, .enter rfl ?_ ⟨uses.told, uses.cells⟩ (tells how program rfl)⟩
      · rw [known]
        simp [Consumer.known, ReadPhase.known]
      · rw [word]
        exact Word.fields_entered (by omega)
  | releasing c answer =>
      obtain ⟨-, fresh⟩ : c = b.word.front ∧ b.word.fields.fresh.get c = true := fits
      rw [Word.fresh_fields] at fresh
      have busy : 0 < b.word.openCount := by
        rw [count]
        simp [ReadPhase.openCell]
      obtain ⟨left, effect, closed⟩ := Word.release_eq busy fresh
      simp only [Consumer.step?, Consumer.release, closed, Word.owedByConsumer] at moved
      by_cases owing : left.openCount = 0 ∧ left.isFresh left.back
      · rw [if_pos owing] at moved
        cases moved
        exact ⟨[], by simp [Consumer.known, ReadPhase.known],
          .release rfl effect rfl (.inr ⟨owing, rfl⟩) rfl⟩
      · rw [if_neg owing] at moved
        cases moved
        exact ⟨[], by simp [Consumer.known, Consumer.finish, ReadPhase.known],
          .release rfl effect rfl (.inl ⟨owing, rfl⟩) rfl⟩
  | exchanging owed answer =>
      have turns : owed.Turns := fits
      by_cases found : b.word = owed.expected
      · simp only [Consumer.step?, Consumer.exchange, found, Exchange.attempt_expected] at moved
        cases moved
        refine ⟨[], by simp [Consumer.known, Consumer.finish, ReadPhase.known],
          .turn rfl (found ▸ turns.vacant) (found ▸ turns.fresh) (found ▸ turns.drained) ?_ rfl rfl
            rfl⟩
        rw [turns.desired, found]
        exact Word.fields_turned _
      · simp only [Consumer.step?, Consumer.exchange, Exchange.attempt_of_ne owed found] at moved
        cases moved
        exact ⟨[], by simp [Consumer.known, Consumer.finish, ReadPhase.known],
          .miss rfl found rfl rfl rfl⟩
  | stopped fault => exact fits.elim

/-! ## Moves of a race -/

/-- The word agrees with the places at which the two sides of a race stand. -/
abbrev IsCoherent (r : Race α) : Prop :=
  Coherent r.buffer.word.fields r.producer.phase r.consumer.phase

/-- What an access can do to a race: it is a move of the side that makes it, and leaves the other
side where it stands. -/
inductive Move (r next : Race α) : Event → Prop
  | producer {action : Action} (kept : next.consumer = r.consumer)
      (move : WriteMove r.buffer r.producer.phase next.buffer next.producer.phase action) :
      Move r next ⟨.producer, action, r.buffer.word, next.buffer.word⟩
  | consumer {action : Action} {told : List (Answer α)} (kept : next.producer = r.producer)
      (known : next.consumer.known = r.consumer.known ++ told)
      (move : ReadMove r.buffer r.consumer.phase next.buffer next.consumer.phase told action) :
      Move r next ⟨.consumer, action, r.buffer.word, next.buffer.word⟩

theorem IsCoherent.move [Add α] {r next : Race α} {side : Side} {event : Event}
    (coherent : r.IsCoherent) (moved : r.step? side = some (event, next)) : Move r next event := by
  cases side with
  | producer =>
      obtain ⟨⟨action, buffer, producer⟩, made, rest⟩ := Option.map_eq_some_iff.mp moved
      cases rest
      exact .producer rfl (Coherent.writeMove coherent made)
  | consumer =>
      obtain ⟨⟨action, buffer, consumer⟩, made, rest⟩ := Option.map_eq_some_iff.mp moved
      cases rest
      obtain ⟨told, known, move⟩ := Coherent.readMove coherent made
      exact .consumer rfl known move

theorem side_of_step? [Add α] {r next : Race α} {side : Side} {event : Event}
    (moved : r.step? side = some (event, next)) : event.side = side := by
  cases side with
  | producer =>
      obtain ⟨made, -, rest⟩ := Option.map_eq_some_iff.mp moved
      cases rest
      rfl
  | consumer =>
      obtain ⟨made, -, rest⟩ := Option.map_eq_some_iff.mp moved
      cases rest
      rfl

/-! ## Runs -/

/-- Keep an account of a race while a schedule is followed.  An access is entered into the account
together with the race before and after it. -/
def recount [Add α] {σ : Type} (enter : σ → Race α → Event → Race α → σ) :
    List Side → Race α → σ → σ
  | [], _, account => account
  | side :: rest, r, account =>
      match r.step? side with
      | none => recount enter rest r account
      | some (event, next) => recount enter rest next (enter account r event next)

/-- What holds of a race and an account of it, and is kept by every access, holds after any run. -/
theorem recount_induction [Add α] {σ : Type} {motive : Race α → σ → Prop}
    (enter : σ → Race α → Event → Race α → σ)
    (kept : ∀ {r account side event next}, motive r account →
      r.step? side = some (event, next) → motive next (enter account r event next))
    (schedule : List Side) {r : Race α} (account : σ) (start : motive r account) :
    motive (run schedule r).2 (recount enter schedule r account) := by
  induction schedule generalizing r account with
  | nil => exact start
  | cons side rest induction =>
      simp only [run, recount]
      cases moved : r.step? side with
      | none => exact induction account start
      | some found => exact induction _ (kept start moved)

theorem recount_events [Add α] (schedule : List Side) (r : Race α) (past : List Event) :
    recount (fun past _ event _ => past ++ [event]) schedule r past =
      past ++ (run schedule r).1 := by
  induction schedule generalizing r past with
  | nil => simp [recount, run]
  | cons side rest induction =>
      simp only [run, recount]
      cases moved : r.step? side with
      | none => exact induction r past
      | some found =>
          calc
            recount (fun past _ event _ => past ++ [event]) rest found.2 (past ++ [found.1])
                = (past ++ [found.1]) ++ (run rest found.2).1 := induction _ _
            _ = past ++ found.1 :: (run rest found.2).1 := by simp

/-- Two accounts can be kept at once. -/
theorem recount_pair [Add α] {σ τ : Type} (enter : σ → Race α → Event → Race α → σ)
    (record : τ → Race α → Event → Race α → τ) (schedule : List Side) (r : Race α) (left : σ)
    (right : τ) :
    recount (fun account r event next =>
        (enter account.1 r event next, record account.2 r event next)) schedule r (left, right) =
      (recount enter schedule r left, recount record schedule r right) := by
  induction schedule generalizing r left right with
  | nil => rfl
  | cons side rest induction =>
      simp only [recount]
      cases r.step? side with
      | none => exact induction r left right
      | some found => exact induction _ _ _

end Race

end Handover
