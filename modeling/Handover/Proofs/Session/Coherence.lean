import Handover.Proofs.Session.Turns

/-!
# Coherent sessions

The word counts exactly the accesses that the journal of a session holds open, whatever was leaked
and however often new handles were given out, and the handles remember the same accesses.  Hence
every request does what the journal says it does, and none ever faults.
-/

namespace Handover

variable {α ρ : Type}

/-! ## Regions of a buffer -/

namespace Buffer

variable {b : Buffer α} {c : Cell}

theorem fields_new (initial : α) : (new initial).word.fields = ⟨.first, 0, .both false, 0⟩ :=
  Word.fields_initial

theorem openWrite_eq (room : b.word.openCount < 2) :
    b.openWrite false = (⟨b.word.entered, b.cells⟩, .ok b.word.back) := by
  simp only [openWrite, Word.openWrite, Word.enterWrite_eq room, Bool.false_eq_true, if_false]

theorem openRead_of_ready (room : b.word.openCount < 2) (ready : b.word.isReady = true) :
    b.openRead none = (⟨b.word.entered, b.cells⟩, .ok (some b.word.front)) := by
  simp only [openRead, Word.openRead_of_ready room ready]

theorem openRead_of_empty (empty : b.word.isReady = false) : b.openRead none = (b, .ok none) := by
  simp only [openRead, Word.openRead_of_empty empty]

end Buffer

namespace Session

theorem closeWrite_eq {b : Buffer α} (busy : 0 < b.word.openCount) :
    ∃ left : Word, left.fields = b.word.fields.writeClosed ∧
      (closeWrite b : Reply α ρ × Buffer α × WriteSide) = (.done, ⟨left, b.cells⟩, .idle) := by
  obtain ⟨left, effect, closes⟩ := Word.closeWrite_eq busy
  exact ⟨left, effect, by simp only [closeWrite, Buffer.closeWrite, closes]⟩

theorem closeRead_eq {b : Buffer α} {c : Cell} (busy : 0 < b.word.openCount)
    (fresh : b.word.isFresh c = true) (reply : Reply α ρ) :
    ∃ left : Word, left.fields = b.word.fields.readClosed c ∧
      closeRead b c reply = (reply, ⟨left, b.cells⟩, .idle) := by
  obtain ⟨left, effect, closes⟩ := Word.closeRead_eq busy fresh
  exact ⟨left, effect, by simp only [closeRead, Buffer.closeRead, closes]⟩

end Session

/-! ## Handles and the journal -/

/-- How the handles that are out stand with the open accesses of a journal. -/
structure Journal.Linked (j : Journal α) (h : Handles) : Prop where
  writing : h.input.writing = j.writing.isSome
  held : ∀ c, h.input = .held c → ∃ a, j.writing = some a ∧ a.cell = c
  reading : h.output.reading = j.reading.map (·.cell)

namespace Journal.Linked

variable {j : Journal α} {input : WriteSide} {output : ReadSide}

theorem not_writing (linked : j.Linked ⟨input, output⟩) (idle : input.writing = false) :
    j.writing = none :=
  Option.isSome_eq_false_iff.mp (linked.writing.symm.trans idle) |> Option.isNone_iff_eq_none.mp

theorem exists_writing (linked : j.Linked ⟨input, output⟩) (busy : input.writing = true) :
    ∃ a, j.writing = some a :=
  Option.isSome_iff_exists.mp (linked.writing.symm.trans busy)

theorem not_reading (linked : j.Linked ⟨input, output⟩) (idle : output.reading = none) :
    j.reading = none :=
  Option.map_eq_none_iff.mp (linked.reading.symm.trans idle)

theorem exists_reading {c : Cell} (linked : j.Linked ⟨input, output⟩)
    (busy : output.reading = some c) : ∃ a, j.reading = some a ∧ a.cell = c :=
  Option.map_eq_some_iff.mp (linked.reading.symm.trans busy)

theorem none_open (linked : j.Linked .fresh) : j.writing = none ∧ j.reading = none :=
  ⟨linked.not_writing rfl, linked.not_reading rfl⟩

/-- Handles that remember no access are as they were given out. -/
theorem eq_fresh {h : Handles} (linked : j.Linked h)
    (none_open : j.writing = none ∧ j.reading = none) : h = .fresh := by
  obtain ⟨input, output⟩ := h
  have writing : input.writing = false := by rw [linked.writing, none_open.1, Option.isSome_none]
  have reading : output.reading = none := by rw [linked.reading, none_open.2, Option.map_none]
  cases input with
  | held c | leaked => cases writing
  | idle =>
      cases output with
      | held c | leaked c => cases reading
      | idle => rfl

end Journal.Linked

namespace Session

/-- A session and its journal agree on the open accesses. -/
structure Accounted (j : Journal α) (s : Session α) : Prop where
  coherent : j.Coherent s.buffer.word.fields
  linked : ∀ h, s.handles = some h → j.Linked h

/-- By a row of acts a session comes to another one, and the journal keeps up. -/
structure Leads (j : Journal α) (s : Session α) (acts : List (Act α)) (next : Session α) :
    Prop where
  turns : Turns j s.buffer acts next.buffer
  accounted : Accounted (acts.foldl Journal.note j) next

section

variable {j : Journal α} {b : Buffer α} {s between next : Session α} {input : WriteSide}
  {output : ReadSide} {c : Cell} {acts more : List (Act α)}

theorem Leads.append (leads : Leads j s acts between)
    (rest : Leads (acts.foldl Journal.note j) between more next) :
    Leads j s (acts ++ more) next :=
  ⟨leads.turns.append rest.turns, List.foldl_append ▸ rest.accounted⟩

theorem Accounted.leads (accounted : Accounted j s) (turns : Turns j s.buffer acts next.buffer)
    (linked : ∀ h, next.handles = some h → (acts.foldl Journal.note j).Linked h) :
    Leads j s acts next :=
  ⟨turns, turns.keep (motive := fun j b => j.Coherent b.word.fields)
    (fun coherent turn => coherent.turn turn) accounted.coherent, linked⟩

/-- A cell that the consumer has access to is a fresh front cell. -/
theorem Accounted.front_of_reading {h : Handles} (accounted : Accounted j s)
    (out : s.handles = some h) (reading : h.output.reading = some c) :
    c = s.buffer.word.fields.front ∧
      s.buffer.word.fields.fresh.get s.buffer.word.fields.front = true := by
  obtain ⟨access, opened, rfl⟩ := (accounted.linked h out).exists_reading reading
  exact accounted.coherent.reader access opened

theorem Accounted.vacant_of_fresh (accounted : Accounted j s) (out : s.handles = some .fresh) :
    s.buffer.word.openCount = 0 :=
  accounted.coherent.vacant (accounted.linked _ out).none_open

/-- Nothing is done, though a guard may be taken up or given up. -/
theorem Accounted.rests (accounted : Accounted j s) (same : next.buffer = s.buffer)
    (linked : ∀ h, next.handles = some h → j.Linked h) : Leads j s [] next :=
  accounted.leads (same ▸ .done) linked

/-! ## Parts of a write -/

theorem Accounted.startsWrite {leaked : Bool}
    (accounted : Accounted j ⟨b, some ⟨if leaked then .leaked else .idle, output⟩⟩) :
    ∃ after : Buffer α, b.openWrite leaked = (after, .ok b.word.back) ∧
      Leads j ⟨b, some ⟨if leaked then .leaked else .idle, output⟩⟩
        (startWrite ⟨b, some ⟨if leaked then .leaked else .idle, output⟩⟩)
        ⟨after, some ⟨.held b.word.back, output⟩⟩ := by
  have linked := accounted.linked _ rfl
  cases leaked with
  | true =>
      obtain ⟨access, writing⟩ := linked.exists_writing rfl
      refine ⟨b, rfl, accounted.rests rfl ?_⟩
      rintro h ⟨⟩
      refine ⟨linked.writing, ?_, linked.reading⟩
      rintro c ⟨⟩
      exact ⟨access, writing, accounted.coherent.writer _ writing⟩
  | false =>
      have closed : j.writing = none := linked.not_writing rfl
      have room : b.word.openCount < 2 := by
        have count := accounted.coherent.count
        rw [closed] at count
        have one := j.reading.isSome.toNat_le
        simp at count
        omega
      refine ⟨⟨b.word.entered, b.cells⟩, Buffer.openWrite_eq room, accounted.leads ?_ ?_⟩
      · exact .single (.openWrite rfl closed (Word.fields_entered (by omega)) rfl)
      · rintro h ⟨⟩
        refine ⟨rfl, ?_, linked.reading⟩
        rintro c ⟨⟩
        exact ⟨_, rfl, rfl⟩

theorem Accounted.storesWrite (accounted : Accounted j ⟨b, some ⟨.held c, output⟩⟩)
    (effect : α → α) :
    Leads j ⟨b, some ⟨.held c, output⟩⟩ [.store .producer effect]
      ⟨b.store c (effect (b.load c)), some ⟨.held c, output⟩⟩ := by
  have linked := accounted.linked _ rfl
  obtain ⟨access, writing, rfl⟩ := linked.held c rfl
  have opened : j.access? .producer = some access := writing
  refine accounted.leads (.single (.store opened rfl rfl)) ?_
  rintro h ⟨⟩
  rw [List.foldl_cons, List.foldl_nil, Journal.note_store opened]
  exact ⟨linked.writing, linked.held, linked.reading⟩

theorem Accounted.finishesWrite (accounted : Accounted j ⟨b, some ⟨.held c, output⟩⟩) :
    ∃ after : Buffer α,
      (closeWrite b : Reply α ρ × Buffer α × WriteSide) = (.done, after, .idle) ∧
        Leads j ⟨b, some ⟨.held c, output⟩⟩ [.closeWrite (b.load c)]
          ⟨after, some ⟨.idle, output⟩⟩ := by
  have linked := accounted.linked _ rfl
  obtain ⟨access, writing, rfl⟩ := linked.held c rfl
  have busy : 0 < b.word.openCount := by
    have count := accounted.coherent.count
    rw [writing] at count
    simp at count
    omega
  obtain ⟨left, effect, closes⟩ := closeWrite_eq busy
  refine ⟨⟨left, b.cells⟩, closes, accounted.leads ?_ ?_⟩
  · exact .single (.closeWrite writing rfl effect rfl)
  · rintro h ⟨⟩
    rw [List.foldl_cons, List.foldl_nil, Journal.note_closeWrite writing]
    exact ⟨rfl, nofun, linked.reading⟩

/-! ## Parts of a read -/

theorem Accounted.startsRead {leaked : Option Cell}
    (accounted : Accounted j ⟨b, some ⟨input, unguarded leaked⟩⟩)
    (ready : leaked.isSome || b.word.isReady) :
    ∃ after : Buffer α,
      b.openRead leaked = (after, .ok (some (leaked.getD b.word.front))) ∧
        after.cells = b.cells ∧
        Leads j ⟨b, some ⟨input, unguarded leaked⟩⟩
          (startRead ⟨b, some ⟨input, unguarded leaked⟩⟩)
          ⟨after, some ⟨input, .held (leaked.getD b.word.front)⟩⟩ := by
  have linked := accounted.linked _ rfl
  cases leaked with
  | some c =>
      refine ⟨b, rfl, rfl, accounted.rests rfl ?_⟩
      rintro h ⟨⟩
      exact ⟨linked.writing, linked.held, linked.reading⟩
  | none =>
      have ready : b.word.isReady = true := ready
      have closed : j.reading = none := linked.not_reading rfl
      have room : b.word.openCount < 2 := by
        have count := accounted.coherent.count
        rw [closed] at count
        have one := j.writing.isSome.toNat_le
        simp at count
        omega
      refine ⟨⟨b.word.entered, b.cells⟩, Buffer.openRead_of_ready room ready, rfl,
        accounted.leads ?_ ?_⟩
      · exact .single (.openRead rfl closed ready (Word.fields_entered (by omega)) rfl)
      · rintro h ⟨⟩
        exact ⟨linked.writing, linked.held, rfl⟩

theorem Accounted.storesRead (accounted : Accounted j ⟨b, some ⟨input, .held c⟩⟩)
    (effect : α → α) :
    Leads j ⟨b, some ⟨input, .held c⟩⟩ [.store .consumer effect]
      ⟨b.store c (effect (b.load c)), some ⟨input, .held c⟩⟩ := by
  have linked := accounted.linked _ rfl
  obtain ⟨access, reading, rfl⟩ := linked.exists_reading rfl
  have opened : j.access? .consumer = some access.toAccess := by
    rw [Journal.access?, reading, Option.map_some]
  refine accounted.leads (.single (.store opened rfl rfl)) ?_
  rintro h ⟨⟩
  rw [List.foldl_cons, List.foldl_nil, Journal.note_store opened]
  exact ⟨linked.writing, linked.held, linked.reading⟩

theorem Accounted.finishesRead (accounted : Accounted j ⟨b, some ⟨input, .held c⟩⟩)
    (reply : Reply α ρ) :
    ∃ after : Buffer α, closeRead b c reply = (reply, after, .idle) ∧
      Leads j ⟨b, some ⟨input, .held c⟩⟩ [.closeRead] ⟨after, some ⟨input, .idle⟩⟩ := by
  have linked := accounted.linked _ rfl
  obtain ⟨access, reading, rfl⟩ := linked.exists_reading rfl
  have busy : 0 < b.word.openCount := by
    have count := accounted.coherent.count
    rw [reading] at count
    simp at count
    omega
  obtain ⟨place, fresh⟩ := accounted.coherent.reader _ reading
  have fresh : b.word.isFresh access.cell = true := by
    rw [← Word.fresh_fields, place]
    exact fresh
  obtain ⟨left, effect, closes⟩ := closeRead_eq busy fresh reply
  refine ⟨⟨left, b.cells⟩, closes, accounted.leads ?_ ?_⟩
  · exact .single (.closeRead reading effect rfl)
  · rintro h ⟨⟩
    rw [List.foldl_cons, List.foldl_nil, Journal.note_closeRead reading]
    exact ⟨linked.writing, linked.held, rfl⟩

end

theorem accounted_new (initial : α) : Accounted .empty (new (.new initial)) where
  coherent := by
    rw [new, Buffer.fields_new]
    exact ⟨rfl, rfl, nofun, nofun, nofun⟩
  linked := nofun

/-! ## Requests -/

theorem acts_rejected (s : Session α) (request : Request α ρ) (r : Rejection) :
    s.acts request (.rejected r) = [] := by
  unfold acts
  split <;> first | rfl | contradiction

/-- What answering a request amounts to: the acts that the journal names, and no fault. -/
structure Answered [Inspect α] (j : Journal α) (s : Session α) (request : Request α ρ) : Prop where
  leads : Leads j s (s.acts request (s.step request).1) (s.step request).2
  lawful : ∀ fault, (s.step request).1 ≠ .fault fault

section

variable [Inspect α] {j : Journal α} {b : Buffer α} {s next : Session α} {input : WriteSide}
  {output : ReadSide} {c : Cell} {request : Request α ρ} {reply : Reply α ρ}

theorem Answered.of_eq (answers : s.step request = (reply, next))
    (leads : Leads j s (s.acts request reply) next) (lawful : ∀ fault, reply ≠ .fault fault) :
    Answered j s request := by
  constructor <;> simpa only [answers]

/-- A request that is turned away. -/
theorem Accounted.turnedAway {r : Rejection} (accounted : Accounted j s)
    (answers : s.step request = (.rejected r, s)) : Answered j s request :=
  .of_eq answers (acts_rejected s request r ▸ accounted.rests rfl accounted.linked) nofun

theorem Accounted.answersInput (leaked : Bool)
    (accounted : Accounted j ⟨b, some ⟨if leaked then .leaked else .idle, output⟩⟩)
    (request : InputRequest α) :
    Answered j ⟨b, some ⟨if leaked then .leaked else .idle, output⟩⟩
      (.handles (.input request) : Request α ρ) := by
  have answers {reply : Reply α ρ} {after : Buffer α} {stands : WriteSide}
      (answered : answerInput b leaked request = (reply, after, stands)) :
      step ⟨b, some ⟨if leaked then .leaked else .idle, output⟩⟩
        (.handles (.input request) : Request α ρ) = (reply, ⟨after, some ⟨stands, output⟩⟩) := by
    cases leaked <;> exact congrArg (withInput output) answered
  cases request with
  | write value =>
      obtain ⟨started, opens, leads⟩ := accounted.startsWrite
      have stores := leads.accounted.storesWrite fun _ => value
      obtain ⟨after, closes, finishes⟩ := stores.accounted.finishesWrite (ρ := ρ)
      have answered : (answerInput b leaked (.write value) : Reply α ρ × _) =
          (.done, after, .idle) := by
        simp only [answerInput, opens, closes]
      refine .of_eq (answers answered) (leads.append (stores.append ?_)) nofun
      simpa only [Buffer.load, Buffer.store, Cells.get_set_self] using finishes
  | start =>
      obtain ⟨started, opens, leads⟩ := accounted.startsWrite
      have answered : (answerInput b leaked .start : Reply α ρ × _) =
          (.cell b.word.back, started, .held b.word.back) := by
        simp only [answerInput, opens]
      exact .of_eq (answers answered) leads nofun
  | isDrained | inspect layout | malformed =>
      exact .of_eq (answers rfl) (accounted.rests rfl accounted.linked) nofun

theorem Accounted.answersWriteGuard (accounted : Accounted j ⟨b, some ⟨.held c, output⟩⟩)
    (request : GuardRequest α ρ) :
    Answered j ⟨b, some ⟨.held c, output⟩⟩ (.handles (.writeGuard request)) := by
  cases request with
  | edit e => exact .of_eq rfl (accounted.storesWrite fun value => (e.run value).2) nofun
  | finish =>
      obtain ⟨after, closes, finishes⟩ := accounted.finishesWrite (ρ := ρ)
      refine .of_eq (congrArg (withInput output) closes) finishes nofun
  | leak =>
      have linked := accounted.linked _ rfl
      refine .of_eq rfl (accounted.rests rfl ?_) nofun
      rintro h ⟨⟩
      exact ⟨linked.writing, nofun, linked.reading⟩
  | inspect layout | malformed =>
      exact .of_eq rfl (accounted.rests rfl accounted.linked) nofun

theorem Accounted.answersOutput (leaked : Option Cell)
    (accounted : Accounted j ⟨b, some ⟨input, unguarded leaked⟩⟩) (request : OutputRequest) :
    Answered j ⟨b, some ⟨input, unguarded leaked⟩⟩
      (.handles (.output request) : Request α ρ) := by
  have answers {reply : Reply α ρ} {after : Buffer α} {stands : ReadSide}
      (answered : answerOutput b leaked request = (reply, after, stands)) :
      step ⟨b, some ⟨input, unguarded leaked⟩⟩ (.handles (.output request) : Request α ρ) =
        (reply, ⟨after, some ⟨input, stands⟩⟩) := by
    cases leaked <;> exact congrArg (withOutput input) answered
  cases ready : leaked.isSome || b.word.isReady with
  | true =>
      obtain ⟨started, opens, cells, leads⟩ := accounted.startsRead ready
      cases request with
      | read =>
          let reply : Reply α ρ := .value (some (started.load (leaked.getD b.word.front)))
          obtain ⟨after, closes, finishes⟩ := leads.accounted.finishesRead reply
          have answered : answerOutput b leaked .read = (reply, after, .idle) := by
            simp only [answerOutput, opens]
            exact closes
          exact .of_eq (answers answered) (leads.append finishes) nofun
      | start =>
          have answered : (answerOutput b leaked .start : Reply α ρ × _) =
              (.entry (some (leaked.getD b.word.front)), started,
                .held (leaked.getD b.word.front)) := by
            simp only [answerOutput, opens]
          exact .of_eq (answers answered) leads nofun
      | isReady | inspect layout =>
          exact .of_eq (answers rfl) (accounted.rests rfl accounted.linked) nofun
  | false =>
      obtain ⟨none_leaked, empty⟩ := Bool.or_eq_false_iff.mp ready
      obtain rfl : leaked = none := Option.isNone_iff_eq_none.mp
        (Option.isSome_eq_false_iff.mp none_leaked)
      have opens := Buffer.openRead_of_empty empty
      cases request with
      | read =>
          have answered : (answerOutput b none .read : Reply α ρ × _) =
              (.value none, b, .idle) := by
            simp only [answerOutput, opens]
          exact .of_eq (answers answered) (accounted.rests rfl accounted.linked) nofun
      | start =>
          have answered : (answerOutput b none .start : Reply α ρ × _) =
              (.entry none, b, .idle) := by
            simp only [answerOutput, opens]
          exact .of_eq (answers answered) (accounted.rests rfl accounted.linked) nofun
      | isReady | inspect layout =>
          exact .of_eq (answers rfl) (accounted.rests rfl accounted.linked) nofun

theorem Accounted.answersReadGuard (accounted : Accounted j ⟨b, some ⟨input, .held c⟩⟩)
    (request : GuardRequest α ρ) :
    Answered j ⟨b, some ⟨input, .held c⟩⟩ (.handles (.readGuard request)) := by
  cases request with
  | edit e => exact .of_eq rfl (accounted.storesRead fun value => (e.run value).2) nofun
  | finish =>
      obtain ⟨after, closes, finishes⟩ := accounted.finishesRead (.done : Reply α ρ)
      refine .of_eq (congrArg (withOutput input) closes) finishes nofun
  | leak =>
      have linked := accounted.linked _ rfl
      refine .of_eq rfl (accounted.rests rfl ?_) nofun
      rintro h ⟨⟩
      exact ⟨linked.writing, linked.held, linked.reading⟩
  | inspect layout | malformed =>
      exact .of_eq rfl (accounted.rests rfl accounted.linked) nofun

theorem Accounted.answersOwner (accounted : Accounted j s) (request : OwnerRequest) :
    Answered j s (.owner request : Request α ρ) := by
  cases request with
  | inspect layout => exact .of_eq rfl (accounted.rests rfl accounted.linked) nofun
  | connect =>
      cases blocked : blocking s.handles with
      | some r =>
          have answers : s.step (.owner .connect : Request α ρ) = (.rejected r, s) := by
            simp only [step, stepOwner, blocked]
          exact accounted.turnedAway answers
      | none =>
          have answers : s.step (.owner .connect : Request α ρ) =
              (.done, ⟨s.buffer.connect, some .fresh⟩) := by
            simp only [step, stepOwner, blocked, answerOwner]
          refine .of_eq answers (accounted.leads ?_ ?_) nofun
          · exact .single (.connect s.buffer.word.fields_atRest rfl)
          · rintro h ⟨⟩
            exact ⟨rfl, nofun, rfl⟩
  | disconnect =>
      cases blocked : blocking s.handles with
      | some r =>
          have answers : s.step (.owner .disconnect : Request α ρ) = (.rejected r, s) := by
            simp only [step, stepOwner, blocked]
          exact accounted.turnedAway answers
      | none =>
          have answers : s.step (.owner .disconnect : Request α ρ) =
              (.done, { s with handles := none }) := by
            simp only [step, stepOwner, blocked, answerOwner]
          exact .of_eq answers (accounted.rests rfl nofun) nofun

/-- Every request is answered by the acts that the journal names, and without a fault. -/
theorem Accounted.answered (accounted : Accounted j s) (request : Request α ρ) :
    Answered j s request := by
  obtain ⟨b, handles⟩ := s
  cases request with
  | owner request => exact accounted.answersOwner request
  | handles request =>
      cases handles with
      | none => exact accounted.turnedAway rfl
      | some h =>
          obtain ⟨input, output⟩ := h
          cases request with
          | malformed => exact accounted.turnedAway rfl
          | input request =>
              cases input with
              | held c => exact accounted.turnedAway rfl
              | idle => exact accounted.answersInput false request
              | leaked => exact accounted.answersInput true request
          | writeGuard request =>
              cases input with
              | held c => exact accounted.answersWriteGuard request
              | idle | leaked => exact accounted.turnedAway rfl
          | output request =>
              cases output with
              | held c => exact accounted.turnedAway rfl
              | idle => exact accounted.answersOutput none request
              | leaked c => exact accounted.answersOutput (some c) request
          | readGuard request =>
              cases output with
              | held c => exact accounted.answersReadGuard request
              | idle | leaked c => exact accounted.turnedAway rfl

/-! ## Answers to reads -/

theorem reads_of_empty (out : s.handles = some ⟨input, .idle⟩)
    (empty : s.buffer.word.isReady = false) :
    s.step (.handles (.output .read) : Request α ρ) = (.value none, s) ∧
      s.step (.handles (.output .start) : Request α ρ) = (.entry none, s) ∧
      (s.step (.handles (.output .isReady) : Request α ρ)).1 = .truth false := by
  obtain ⟨b, handles⟩ := s
  cases out
  have opens := Buffer.openRead_of_empty empty
  refine ⟨?_, ?_, congrArg Reply.truth empty⟩
  · simp only [step, stepHandles, answerOutput, opens, withOutput]
  · simp only [step, stepHandles, answerOutput, opens, withOutput]

/-- A read that resumes an access, or that finds something to read, delivers what is in the cell. -/
theorem Accounted.reads_of_ready (accounted : Accounted j s) (leaked : Option Cell)
    (out : s.handles = some ⟨input, unguarded leaked⟩)
    (ready : leaked.isSome || s.buffer.word.isReady) :
    let c := leaked.getD s.buffer.word.front
    (s.step (.handles (.output .read) : Request α ρ)).1 = .value (some (s.buffer.load c)) ∧
      (s.step (.handles (.output .start) : Request α ρ)).1 = .entry (some c) ∧
      (s.step (.handles (.output .start) : Request α ρ)).2.buffer.cells = s.buffer.cells ∧
      (s.step (.handles (.output .isReady) : Request α ρ)).1 = .truth true := by
  intro c
  obtain ⟨b, handles⟩ := s
  cases out
  have answers (request : OutputRequest) :
      Session.step ⟨b, some ⟨input, unguarded leaked⟩⟩
          (.handles (.output request) : Request α ρ) =
        withOutput input (answerOutput b leaked request) := by
    cases leaked <;> rfl
  obtain ⟨started, opens, cells, leads⟩ := accounted.startsRead ready
  have opens : b.openRead leaked = (started, .ok (some c)) := opens
  have content : started.load c = b.load c := by
    rw [Buffer.load, cells]
    rfl
  obtain ⟨after, closes, -⟩ :=
    leads.accounted.finishesRead (.value (some (b.load c)) : Reply α ρ)
  refine ⟨?_, ?_, ?_, ?_⟩
  · simp only [answers, answerOutput, opens, content]
    exact congrArg (fun answer => (withOutput input answer).1) closes
  · simp only [answers, answerOutput, opens, withOutput]
  · simp only [answers, answerOutput, opens, withOutput]
    exact cells
  · rw [answers]
    exact congrArg Reply.truth ready

/-! ## Runs -/

theorem Accounted.step (accounted : Accounted j s) (request : Request α ρ) :
    Accounted (s.record j request) (s.step request).2 :=
  (accounted.answered request).leads.accounted

/-- What holds of a fresh buffer, and is kept by every turn, holds after a run. -/
theorem journal_induction {motive : Journal α → Buffer α → Prop}
    (kept : ∀ {j b after act}, j.Coherent b.word.fields → motive j b → Turn j b after act →
      motive (j.note act) after)
    (initial : α) (start : motive .empty (.new initial)) (requests : List (Request α ρ)) :
    motive (journal requests (new (.new initial))) (run requests (new (.new initial))).buffer := by
  refine (journalFrom_induction (motive := fun j s => Accounted j s ∧ motive j s.buffer)
    ?_ requests ⟨accounted_new initial, start⟩).2
  rintro j s request ⟨accounted, holds⟩
  have leads := (accounted.answered request).leads
  refine ⟨leads.accounted, ?_⟩
  refine (leads.turns.keep (motive := fun j b => j.Coherent b.word.fields ∧ motive j b) ?_
    ⟨accounted.coherent, holds⟩).2
  rintro j b after act ⟨coherent, holds⟩ turn
  exact ⟨coherent.turn turn, kept coherent holds turn⟩

theorem accounted_journal (initial : α) (requests : List (Request α ρ)) :
    Accounted (journal requests (new (.new initial))) (run requests (new (.new initial))) :=
  journalFrom_induction (fun request accounted => accounted.step request) requests
    (accounted_new initial)

/-! ## The representation -/

/-- New handles leave every flag and every value in its place. -/
theorem connect_keeps (s : Session α) (c : Cell) :
    (s.step (.owner .connect : Request α ρ)).2.buffer.word.isFresh c = s.buffer.word.isFresh c ∧
      (s.step (.owner .connect : Request α ρ)).2.buffer.load c = s.buffer.load c := by
  simp only [step, stepOwner]
  split
  · contradiction
  · exact ⟨s.buffer.word.isFresh_atRest c, rfl⟩
  · exact ⟨rfl, rfl⟩

/-- With no access open, the two handles agree on whether a value is waiting. -/
theorem Accounted.agree {h : Handles} (accounted : Accounted j s) (out : s.handles = some h)
    (vacant : s.buffer.word.openCount = 0) :
    ∃ waiting, (s.step (.handles (.output .isReady) : Request α ρ)).1 = .truth waiting ∧
      (s.step (.handles (.input .isDrained) : Request α ρ)).1 = .truth !waiting := by
  have linked := accounted.linked h out
  have none_open := linked.eq_fresh (accounted.coherent.none_open vacant)
  have drained : s.buffer.word.isDrained = !s.buffer.word.isReady := by
    have settled := accounted.coherent.settled vacant
    rw [Word.isDrained_eq, Word.isReady]
    simp only [Word.fresh_fields, Word.back_fields, Word.front_fields] at settled
    cases behind : s.buffer.word.isFresh s.buffer.word.back
    · rfl
    · rw [settled behind]
      rfl
  obtain ⟨b, handles⟩ := s
  cases out
  cases none_open
  exact ⟨b.word.isReady, rfl, congrArg Reply.truth drained⟩

/-- Whatever was leaked and however often new handles were given out: the word holds nothing but its
five lowest bits, counts exactly the accesses that the handles remember, keeps an open read access
at a fresh front cell and an open write access at the back, and with nobody inside holds a fresh
back cell only behind a fresh front cell.  No request faults, and new handles change neither flags
nor values. -/
theorem representation_kept (initial : α) (requests : List (Request α ρ)) :
    let s := run requests (new (.new initial))
    let w := s.buffer.word
    w.bits < 32 ∧ w.openCount ≤ 2 ∧
      (∀ h, s.handles = some h →
        w.openCount = h.input.writing.toNat + h.output.reading.isSome.toNat ∧
          (∀ c, h.output.reading = some c → c = w.front ∧ w.isFresh c = true) ∧
          (∀ c, h.input = .held c → c = w.back)) ∧
      (w.openCount = 0 → w.isFresh w.back = true → w.isFresh w.front = true) ∧
      (s.handles.isSome = true → w.openCount = 0 → ∃ waiting,
        (s.step (.handles (.output .isReady) : Request α ρ)).1 = .truth waiting ∧
          (s.step (.handles (.input .isDrained) : Request α ρ)).1 = .truth !waiting) ∧
      (∀ (request : Request α ρ) fault, (s.step request).1 ≠ .fault fault) ∧
      ∀ c, (s.step (.owner .connect : Request α ρ)).2.buffer.word.isFresh c = w.isFresh c ∧
        (s.step (.owner .connect : Request α ρ)).2.buffer.load c = s.buffer.load c := by
  intro s w
  have accounted : Accounted (journal requests (new (.new initial))) s :=
    accounted_journal initial requests
  have coherent := accounted.coherent
  have count : w.openCount = _ := coherent.count
  refine ⟨Word.bits_lt_of_spare coherent.spare, ?_, ?_, ?_, ?_, ?_, connect_keeps s⟩
  · rw [count]
    exact Nat.add_le_add (Bool.toNat_le _) (Bool.toNat_le _)
  · intro h out
    have linked := accounted.linked h out
    refine ⟨?_, ?_, ?_⟩
    · rw [count, linked.writing, linked.reading, Option.isSome_map]
    · intro c reading
      obtain ⟨place, fresh⟩ := accounted.front_of_reading out reading
      rw [Word.fresh_fields, ← place] at fresh
      exact ⟨place, fresh⟩
    · intro c held
      obtain ⟨access, opened, rfl⟩ := linked.held c held
      exact coherent.writer access opened
  · intro vacant fresh
    simpa using coherent.settled vacant (by simpa using fresh)
  · intro out vacant
    obtain ⟨h, out⟩ := Option.isSome_iff_exists.mp out
    exact accounted.agree out vacant
  · intro request
    exact (accounted.answered request).lawful

end

end Session

end Handover
