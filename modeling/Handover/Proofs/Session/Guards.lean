import Handover.Race.Basic
import Handover.Session.Step

/-!
# Guards that are gone

A side can give up its guard and leave its access open.  This module says which requests such a side
can still make, what they leave it with, and what it is to bring the guard back: no request that is
addressed to the other side, or to nobody, depends on whether the guard is there.
-/

namespace Handover

variable {α ρ : Type}

/-! ## Handles and their guards -/

namespace WriteSide

/-- Cell of the guard, if one is held. -/
def guard? : WriteSide → Option Cell
  | held c => some c
  | idle | leaked => none

/-- An access is open, and its guard is gone. -/
def isLeaked : WriteSide → Bool
  | leaked => true
  | idle | held _ => false

/-- A guard that is gone is back, over the cell that is now at the back. -/
def resumed (back : Cell) : WriteSide → WriteSide
  | leaked => held back
  | idle => idle
  | held c => held c

end WriteSide

namespace ReadSide

/-- Cell of the guard, if one is held. -/
def guard? : ReadSide → Option Cell
  | held c => some c
  | idle | leaked _ => none

/-- An access is open, and its guard is gone. -/
def isLeaked : ReadSide → Bool
  | leaked _ => true
  | idle | held _ => false

/-- A guard that is gone is back, over the cell that the handle remembers. -/
def resumed : ReadSide → ReadSide
  | idle => idle
  | held c | leaked c => held c

end ReadSide

namespace Session

/-- Cell of the guard that one side holds. -/
def guard? (s : Session α) : Race.Side → Option Cell
  | .producer => s.handles.bind (·.input.guard?)
  | .consumer => s.handles.bind (·.output.guard?)

/-- One side has an access open, and its guard is gone. -/
def isLeaked (s : Session α) : Race.Side → Bool
  | .producer => s.handles.any (·.input.isLeaked)
  | .consumer => s.handles.any (·.output.isLeaked)

/-- One side has an access open. -/
def isOpen (s : Session α) : Race.Side → Bool
  | .producer => s.handles.any (·.input.writing)
  | .consumer => s.handles.any (·.output.reading.isSome)

/-- The session in which the guard of one side is back, if it was gone. -/
def resumed (s : Session α) : Race.Side → Session α
  | .producer =>
      ⟨s.buffer, s.handles.map fun h => ⟨h.input.resumed s.buffer.word.back, h.output⟩⟩
  | .consumer => ⟨s.buffer, s.handles.map fun h => ⟨h.input, h.output.resumed⟩⟩

section

variable {s : Session α} {side : Race.Side} {c : Cell}

theorem eq_of_leaked_producer (leaked : s.isLeaked .producer = true) :
    ∃ b output, s = ⟨b, some ⟨.leaked, output⟩⟩ := by
  obtain ⟨b, _ | ⟨_ | _ | _, output⟩⟩ := s <;> cases leaked
  exact ⟨b, output, rfl⟩

theorem eq_of_leaked_consumer (leaked : s.isLeaked .consumer = true) :
    ∃ b input c, s = ⟨b, some ⟨input, .leaked c⟩⟩ := by
  obtain ⟨b, _ | ⟨input, _ | _ | c⟩⟩ := s <;> cases leaked
  exact ⟨b, input, c, rfl⟩

theorem eq_of_guard_producer (guard : s.guard? .producer = some c) :
    ∃ b output, s = ⟨b, some ⟨.held c, output⟩⟩ := by
  obtain ⟨b, _ | ⟨_ | _ | _, output⟩⟩ := s <;> cases guard
  exact ⟨b, output, rfl⟩

theorem eq_of_guard_consumer (guard : s.guard? .consumer = some c) :
    ∃ b input, s = ⟨b, some ⟨input, .held c⟩⟩ := by
  obtain ⟨b, _ | ⟨input, _ | _ | _⟩⟩ := s <;> cases guard
  exact ⟨b, input, rfl⟩

theorem resumed_of_not_leaked (kept : s.isLeaked side = false) : s.resumed side = s := by
  cases side with
  | producer => obtain ⟨b, _ | ⟨_ | _ | _, output⟩⟩ := s <;> first | rfl | cases kept
  | consumer => obtain ⟨b, _ | ⟨input, _ | _ | _⟩⟩ := s <;> first | rfl | cases kept

theorem isLeaked_resumed (s : Session α) (side : Race.Side) :
    (s.resumed side).isLeaked side = false := by
  cases side with
  | producer => obtain ⟨b, _ | ⟨_ | _ | _, output⟩⟩ := s <;> rfl
  | consumer => obtain ⟨b, _ | ⟨input, _ | _ | _⟩⟩ := s <;> rfl

@[simp]
theorem buffer_resumed (s : Session α) (side : Race.Side) :
    (s.resumed side).buffer = s.buffer := by
  cases side <;> rfl

theorem guard?_resumed (guard : s.guard? side = some c) :
    (s.resumed side).guard? side = some c := by
  cases side with
  | producer =>
      obtain ⟨b, output, rfl⟩ := eq_of_guard_producer guard
      rfl
  | consumer =>
      obtain ⟨b, input, rfl⟩ := eq_of_guard_consumer guard
      rfl

@[simp]
theorem isOpen_resumed (s : Session α) (side : Race.Side) :
    (s.resumed side).isOpen side = s.isOpen side := by
  cases side with
  | producer => obtain ⟨b, _ | ⟨_ | _ | _, output⟩⟩ := s <;> rfl
  | consumer => obtain ⟨b, _ | ⟨input, _ | _ | _⟩⟩ := s <;> rfl

end

end Session

/-! ## The requests of one side -/

namespace Request

/-- The request by which one side opens an access, or resumes it. -/
def start : Race.Side → Request α ρ
  | .producer => .handles (.input .start)
  | .consumer => .handles (.output .start)

/-- The request is addressed to the handle of one side or to its guard. -/
def isTo : Race.Side → Request α ρ → Bool
  | .producer, .handles (.input _) | .producer, .handles (.writeGuard _) => true
  | .consumer, .handles (.output _) | .consumer, .handles (.readGuard _) => true
  | _, _ => false

/-- One side gives up its guard. -/
def isLeak : Race.Side → Request α ρ → Bool
  | .producer, .handles (.writeGuard .leak) | .consumer, .handles (.readGuard .leak) => true
  | _, _ => false

/-- One side writes or reads without holding a guard, and so closes its access at once. -/
def isWhole : Race.Side → Request α ρ → Bool
  | .producer, .handles (.input (.write _)) | .consumer, .handles (.output .read) => true
  | _, _ => false

/-- The handles are given out or taken back. -/
def reconnects : Request α ρ → Bool
  | .owner .connect | .owner .disconnect => true
  | _ => false

variable {request : Request α ρ}

theorem exists_to_producer (own : request.isTo .producer = true) :
    (∃ asked, request = .handles (.input asked)) ∨
      ∃ asked, request = .handles (.writeGuard asked) := by
  cases request with
  | owner => cases own
  | handles request =>
      cases request with
      | input asked => exact .inl ⟨asked, rfl⟩
      | writeGuard asked => exact .inr ⟨asked, rfl⟩
      | output | readGuard | malformed => cases own

theorem exists_to_consumer (own : request.isTo .consumer = true) :
    (∃ asked, request = .handles (.output asked)) ∨
      ∃ asked, request = .handles (.readGuard asked) := by
  cases request with
  | owner => cases own
  | handles request =>
      cases request with
      | output asked => exact .inl ⟨asked, rfl⟩
      | readGuard asked => exact .inr ⟨asked, rfl⟩
      | input | writeGuard | malformed => cases own

theorem isTo_of_isLeak {side : Race.Side} (leak : request.isLeak side = true) :
    request.isTo side = true := by
  unfold isLeak at leak
  split at leak <;> first | rfl | cases leak

theorem isTo_of_isWhole {side : Race.Side} (whole : request.isWhole side = true) :
    request.isTo side = true := by
  unfold isWhole at whole
  split at whole <;> first | rfl | cases whole

end Request

/-- Reply by which one side gets a guard over a cell. -/
def Reply.entered : Race.Side → Cell → Reply α ρ
  | .producer, c => .cell c
  | .consumer, c => .entry (some c)

namespace Session

/-- The request cannot be made while one side holds its guard: it gives the guard up, or it is made
by that side while the guard is gone. -/
def omits (s : Session α) (side : Race.Side) (request : Request α ρ) : Bool :=
  if s.isLeaked side then request.isTo side
  else (s.guard? side).isSome && request.isLeak side

section

variable {s : Session α} {side : Race.Side} {request : Request α ρ}

theorem omits_of_leaked (leaked : s.isLeaked side = true) :
    s.omits side request = request.isTo side :=
  if_pos leaked

theorem omits_of_kept (kept : s.isLeaked side = false) :
    s.omits side request = ((s.guard? side).isSome && request.isLeak side) :=
  if_neg (Bool.eq_false_iff.mp kept)

theorem omits_resumed (shown : s.omits side request = false) :
    (s.resumed side).omits side request = false := by
  cases leaked : s.isLeaked side with
  | false => rwa [resumed_of_not_leaked leaked]
  | true =>
      have other := (omits_of_leaked leaked).symm.trans shown
      have keeps : request.isLeak side = false :=
        Bool.eq_false_iff.mpr (mt Request.isTo_of_isLeak (Bool.eq_false_iff.mp other))
      rw [omits_of_kept (isLeaked_resumed s side), keeps, Bool.and_false]

end

/-! ## What a side is left with -/

/-- Unless it faults, an answer to one side leaves its handle as told. -/
def Leaves {σ : Type} (answer : Reply α ρ × Buffer α × σ) (stands : σ → Prop) : Prop :=
  (∀ fault, answer.1 ≠ .fault fault) → stands answer.2.2

section

variable {b : Buffer α} {c : Cell}

theorem closeWrite_leaves : Leaves (closeWrite b : Reply α ρ × Buffer α × _) (· = .idle) := by
  unfold closeWrite
  split
  · exact fun _ => rfl
  · exact fun lawful => absurd rfl (lawful _)

theorem closeRead_leaves (reply : Reply α ρ) : Leaves (closeRead b c reply) (· = .idle) := by
  unfold closeRead
  split
  · exact fun _ => rfl
  · exact fun lawful => absurd rfl (lawful _)

theorem write_leaves (leaked : Bool) (value : α) :
    Leaves (answerInput b leaked (.write value) : Reply α ρ × Buffer α × _) (· = .idle) := by
  simp only [answerInput]
  split
  · exact closeWrite_leaves
  · exact fun lawful => absurd rfl (lawful _)

theorem read_leaves (leaked : Option Cell) :
    Leaves (answerOutput b leaked .read : Reply α ρ × Buffer α × _) (· = .idle) := by
  simp only [answerOutput]
  split
  · exact fun _ => rfl
  · exact closeRead_leaves _
  · exact fun _ => rfl

theorem answerInput_leaves (request : InputRequest α) :
    Leaves (answerInput b false request : Reply α ρ × Buffer α × _) (·.isLeaked = false) := by
  cases request with
  | write value => exact fun lawful => congrArg WriteSide.isLeaked (write_leaves false value lawful)
  | start =>
      simp only [answerInput]
      split
      · exact fun _ => rfl
      · exact fun lawful => absurd rfl (lawful _)
  | isDrained | inspect layout | malformed => exact fun _ => rfl

theorem answerOutput_leaves (request : OutputRequest) :
    Leaves (answerOutput b none request : Reply α ρ × Buffer α × _) (·.isLeaked = false) := by
  cases request with
  | read => exact fun lawful => congrArg ReadSide.isLeaked (read_leaves none lawful)
  | start =>
      simp only [answerOutput]
      split <;> exact fun _ => rfl
  | isReady | inspect layout => exact fun _ => rfl

variable [Inspect α] {request : GuardRequest α ρ}

theorem answerWriteGuard_leaves
    (kept : (Request.handles (.writeGuard request)).isLeak .producer = false) :
    Leaves (answerWriteGuard b c request) fun stands => stands = .held c ∨ stands = .idle := by
  cases request with
  | leak => cases kept
  | finish => exact fun lawful => .inr (closeWrite_leaves lawful)
  | edit e | inspect layout | malformed => exact fun _ => .inl rfl

theorem answerReadGuard_leaves
    (kept : (Request.handles (.readGuard request)).isLeak .consumer = false) :
    Leaves (answerReadGuard b c request) fun stands => stands = .held c ∨ stands = .idle := by
  cases request with
  | leak => cases kept
  | finish => exact fun lawful => .inr (closeRead_leaves _ lawful)
  | edit e | inspect layout | malformed => exact fun _ => .inl rfl

end

/-- One side is not left without its guard, and a guard that it held is still held unless the access
was closed. -/
structure Keeps (s next : Session α) (side : Race.Side) : Prop where
  not_leaked : next.isLeaked side = false
  guard : ∀ c, s.guard? side = some c → next.isOpen side = true → next.guard? side = some c

theorem Keeps.refl {s : Session α} {side : Race.Side} (kept : s.isLeaked side = false) :
    Keeps s s side :=
  ⟨kept, fun _ guard _ => guard⟩

theorem Leaves.keeps_input {answer : Reply α ρ × Buffer α × WriteSide} {b : Buffer α} {c : Cell}
    {output : ReadSide}
    (leaves : Leaves answer fun stands => stands = .held c ∨ stands = .idle)
    (lawful : ∀ fault, answer.1 ≠ .fault fault) :
    Keeps ⟨b, some ⟨.held c, output⟩⟩ (withInput output answer).2 .producer := by
  obtain ⟨reply, after, stands⟩ := answer
  obtain rfl | rfl := leaves lawful
  · exact ⟨rfl, fun _ guard _ => guard⟩
  · exact ⟨rfl, fun _ _ stays => nomatch stays⟩

theorem Leaves.keeps_output {answer : Reply α ρ × Buffer α × ReadSide} {b : Buffer α} {c : Cell}
    {input : WriteSide}
    (leaves : Leaves answer fun stands => stands = .held c ∨ stands = .idle)
    (lawful : ∀ fault, answer.1 ≠ .fault fault) :
    Keeps ⟨b, some ⟨input, .held c⟩⟩ (withOutput input answer).2 .consumer := by
  obtain ⟨reply, after, stands⟩ := answer
  obtain rfl | rfl := leaves lawful
  · exact ⟨rfl, fun _ guard _ => guard⟩
  · exact ⟨rfl, fun _ _ stays => nomatch stays⟩

/-! ## What concerns the other side -/

section

variable [Inspect α] {s : Session α} {side : Race.Side} {c : Cell}
  {request : Request α ρ}

/-- What is not addressed to the producer is answered whatever the producer's handle does. -/
theorem exists_answer_output (within : request.reconnects = false)
    (other : request.isTo .producer = false) (b : Buffer α) (output : ReadSide) :
    ∃ answer : Reply α ρ × Buffer α × ReadSide, ∀ input,
      step ⟨b, some ⟨input, output⟩⟩ request = withOutput input answer := by
  cases request with
  | owner request =>
      cases request with
      | inspect layout => exact ⟨(.text (b.word.bufferDoc.render layout), b, output), fun _ => rfl⟩
      | connect | disconnect => cases within
  | handles request =>
      cases request with
      | input request | writeGuard request => cases other
      | malformed => exact ⟨(.rejected .malformed, b, output), fun _ => rfl⟩
      | output request =>
          cases output with
          | held c => exact ⟨(.rejected .readOpen, b, .held c), fun _ => rfl⟩
          | idle => exact ⟨answerOutput b none request, fun _ => rfl⟩
          | leaked c => exact ⟨answerOutput b (some c) request, fun _ => rfl⟩
      | readGuard request =>
          cases output with
          | held c => exact ⟨answerReadGuard b c request, fun _ => rfl⟩
          | idle => exact ⟨(.rejected .noRead, b, .idle), fun _ => rfl⟩
          | leaked c => exact ⟨(.rejected .noRead, b, .leaked c), fun _ => rfl⟩

/-- What is not addressed to the consumer is answered whatever the consumer's handle does. -/
theorem exists_answer_input (within : request.reconnects = false)
    (other : request.isTo .consumer = false) (b : Buffer α) (input : WriteSide) :
    ∃ answer : Reply α ρ × Buffer α × WriteSide, ∀ output,
      step ⟨b, some ⟨input, output⟩⟩ request = withInput output answer := by
  cases request with
  | owner request =>
      cases request with
      | inspect layout => exact ⟨(.text (b.word.bufferDoc.render layout), b, input), fun _ => rfl⟩
      | connect | disconnect => cases within
  | handles request =>
      cases request with
      | output request | readGuard request => cases other
      | malformed => exact ⟨(.rejected .malformed, b, input), fun _ => rfl⟩
      | input request =>
          cases input with
          | held c => exact ⟨(.rejected .writeOpen, b, .held c), fun _ => rfl⟩
          | idle => exact ⟨answerInput b false request, fun _ => rfl⟩
          | leaked => exact ⟨answerInput b true request, fun _ => rfl⟩
      | writeGuard request =>
          cases input with
          | held c => exact ⟨answerWriteGuard b c request, fun _ => rfl⟩
          | idle => exact ⟨(.rejected .noWrite, b, .idle), fun _ => rfl⟩
          | leaked => exact ⟨(.rejected .noWrite, b, .leaked), fun _ => rfl⟩

/-! ## Resuming -/

/-- Starting again brings back the guard that is gone, and changes nothing else. -/
theorem step_start_of_leaked (leaked : s.isLeaked side = true) :
    ∃ c, (s.resumed side).guard? side = some c ∧
      s.step (.start side : Request α ρ) = (.entered side c, s.resumed side) := by
  cases side with
  | producer =>
      obtain ⟨b, output, rfl⟩ := eq_of_leaked_producer leaked
      exact ⟨b.word.back, rfl, rfl⟩
  | consumer =>
      obtain ⟨b, input, c, rfl⟩ := eq_of_leaked_consumer leaked
      exact ⟨c, rfl, rfl⟩

/-- To write without holding a guard is to start again, to set the value and to finish. -/
theorem write_of_leaked {value : α} {e : Edit α ρ} (leaked : s.isLeaked .producer = true)
    (sets : ∀ found, (e.run found).2 = value) :
    s.step (.handles (.input (.write value)) : Request α ρ) =
      (run [.start .producer, .handles (.writeGuard (.edit e))] s).step
        (.handles (.writeGuard .finish)) := by
  obtain ⟨b, output, rfl⟩ := eq_of_leaked_producer leaked
  simp only [run, Request.start, step, stepHandles, answerInput, answerWriteGuard,
    Buffer.openWrite, withInput, if_true, sets]

/-- To read without holding a guard is to start again and to finish, but for the answer. -/
theorem read_of_leaked (leaked : s.isLeaked .consumer = true) :
    (s.step (.handles (.output .read) : Request α ρ)).2 =
      run [(.start .consumer : Request α ρ), .handles (.readGuard .finish)] s := by
  obtain ⟨b, input, c, rfl⟩ := eq_of_leaked_consumer leaked
  simp only [run, Request.start, step, stepHandles, answerOutput, answerReadGuard,
    Buffer.openRead, closeRead, withOutput]
  split <;> rfl

/-- The cell that is named when an access is opened or resumed is that of the guard. -/
theorem guard?_of_entered
    (entered : (s.step (.start side : Request α ρ)).1 = .entered side c) :
    (s.step (.start side : Request α ρ)).2.guard? side = some c := by
  obtain ⟨b, _ | ⟨input, output⟩⟩ := s
  · cases side <;> cases entered
  cases side with
  | producer =>
      cases input with
      | held c => cases entered
      | idle =>
          simp only [Request.start, step, stepHandles, answerInput] at entered ⊢
          split at entered <;> cases entered
          rfl
      | leaked =>
          cases entered
          rfl
  | consumer =>
      cases output with
      | held c => cases entered
      | idle =>
          simp only [Request.start, step, stepHandles, answerOutput] at entered ⊢
          split at entered <;> cases entered
          rfl
      | leaked c =>
          cases entered
          rfl

/-- While its guard is gone, a side gets it back or changes nothing, unless it writes or reads
without holding a guard. -/
theorem step_of_leaked (leaked : s.isLeaked side = true) (own : request.isTo side = true)
    (resumes : request.isWhole side = false) :
    (s.step request).2.resumed side = s.resumed side := by
  cases side with
  | producer =>
      obtain ⟨b, output, rfl⟩ := eq_of_leaked_producer leaked
      obtain ⟨request, rfl⟩ | ⟨request, rfl⟩ := Request.exists_to_producer own
      · cases request with
        | write value => cases resumes
        | start | isDrained | inspect layout | malformed => rfl
      · rfl
  | consumer =>
      obtain ⟨b, input, c, rfl⟩ := eq_of_leaked_consumer leaked
      obtain ⟨request, rfl⟩ | ⟨request, rfl⟩ := Request.exists_to_consumer own
      · cases request with
        | read => cases resumes
        | start | isReady | inspect layout => rfl
      · rfl

/-- A write or a read that holds no guard closes the access that it resumes. -/
theorem step_whole (leaked : s.isLeaked side = true) (whole : request.isWhole side = true)
    (lawful : ∀ fault, (s.step request).1 ≠ .fault fault) :
    (s.step request).2.isOpen side = false := by
  have own := Request.isTo_of_isWhole whole
  cases side with
  | producer =>
      obtain ⟨b, output, rfl⟩ := eq_of_leaked_producer leaked
      obtain ⟨request, rfl⟩ | ⟨request, rfl⟩ := Request.exists_to_producer own
      · cases request with
        | write value => exact congrArg WriteSide.writing (write_leaves true value lawful)
        | start | isDrained | inspect layout | malformed => cases whole
      · cases whole
  | consumer =>
      obtain ⟨b, input, c, rfl⟩ := eq_of_leaked_consumer leaked
      obtain ⟨request, rfl⟩ | ⟨request, rfl⟩ := Request.exists_to_consumer own
      · cases request with
        | read => exact congrArg (·.reading.isSome) (read_leaves (some c) lawful)
        | start | isReady | inspect layout => cases whole
      · cases whole

/-- A side that does not give its guard up keeps it, or closes its access. -/
theorem step_of_kept (within : request.reconnects = false) (kept : s.isLeaked side = false)
    (shown : s.omits side request = false)
    (lawful : ∀ fault, (s.step request).1 ≠ .fault fault) :
    Keeps s (s.step request).2 side := by
  have no_leak : (s.guard? side).isSome = true → request.isLeak side = false := by
    simpa [omits_of_kept kept] using shown
  obtain ⟨b, _ | ⟨input, output⟩⟩ := s
  · have same : (step ⟨b, none⟩ request).2 = ⟨b, none⟩ := by
      obtain (_ | _ | _) | _ := request <;> first | rfl | cases within
    rw [same]
    exact .refl kept
  cases side with
  | producer =>
      cases own : request.isTo .producer with
      | false =>
          obtain ⟨answer, answers⟩ := exists_answer_output within own b output
          rw [answers]
          exact ⟨kept, fun _ guard _ => guard⟩
      | true =>
          obtain ⟨request, rfl⟩ | ⟨request, rfl⟩ := Request.exists_to_producer own
          · cases input with
            | leaked => cases kept
            | held c => exact .refl kept
            | idle => exact ⟨answerInput_leaves request lawful, nofun⟩
          · cases input with
            | leaked => cases kept
            | idle => exact .refl kept
            | held c => exact (answerWriteGuard_leaves (no_leak rfl)).keeps_input lawful
  | consumer =>
      cases own : request.isTo .consumer with
      | false =>
          obtain ⟨answer, answers⟩ := exists_answer_input within own b input
          rw [answers]
          exact ⟨kept, fun _ guard _ => guard⟩
      | true =>
          obtain ⟨request, rfl⟩ | ⟨request, rfl⟩ := Request.exists_to_consumer own
          · cases output with
            | leaked c => cases kept
            | held c => exact .refl kept
            | idle => exact ⟨answerOutput_leaves request lawful, nofun⟩
          · cases output with
            | leaked c => cases kept
            | idle => exact .refl kept
            | held c => exact (answerReadGuard_leaves (no_leak rfl)).keeps_output lawful

end

end Session

end Handover
