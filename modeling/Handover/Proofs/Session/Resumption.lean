import Handover.Proofs.Session.Coherence
import Handover.Proofs.Session.Guards

/-!
# Resumed accesses

A side that gave up its guard and starts again gets a guard over the cell it had, and nobody else
can tell that the guard was ever gone: a run in which one side leaks its guard and resumes the
access, however often, is a run in which that side held its guard all the time, with some requests
of that side put in between that change nothing.

The consumer's handle remembers the cell of a leaked access.  The producer's handle looks it up in
the word, which must not have turned the cells in the meantime.
-/

namespace Handover.Session

variable {α ρ : Type}

/-! ## Sessions with a journal -/

section

variable {j : Journal α} {s : Session α} {side : Race.Side} {c : Cell} {request : Request α ρ}

/-- The guard of a write access is over the back cell. -/
theorem Accounted.guard_back (accounted : Accounted j s) (guard : s.guard? .producer = some c) :
    c = s.buffer.word.back := by
  obtain ⟨b, output, rfl⟩ := eq_of_guard_producer guard
  obtain ⟨access, opened, rfl⟩ := (accounted.linked _ rfl).held c rfl
  exact accounted.coherent.writer access opened

variable [Inspect α]

/-- A session that agrees with its journal still does so when a guard is back. -/
theorem Accounted.resumed (accounted : Accounted j s) (side : Race.Side) :
    Accounted j (s.resumed side) := by
  cases leaked : s.isLeaked side with
  | false => rwa [resumed_of_not_leaked leaked]
  | true =>
      obtain ⟨c, -, answers⟩ := step_start_of_leaked (ρ := Unit) leaked
      have idle : s.acts (.start side : Request α Unit) (.entered side c) = [] := by
        cases side with
        | producer =>
            obtain ⟨b, output, rfl⟩ := eq_of_leaked_producer leaked
            rfl
        | consumer =>
            obtain ⟨b, input, d, rfl⟩ := eq_of_leaked_consumer leaked
            rfl
      have starts := (accounted.answered (.start side : Request α Unit)).leads.accounted
      rw [answers, idle] at starts
      exact starts

/-- A guard that was given up can be brought back. -/
theorem Accounted.step_leak (accounted : Accounted j s) (guard : s.guard? side = some c)
    (leak : request.isLeak side = true) : (s.step request).2.resumed side = s := by
  have own := Request.isTo_of_isLeak leak
  cases side with
  | producer =>
      obtain ⟨b, output, rfl⟩ := eq_of_guard_producer guard
      obtain rfl : c = b.word.back := accounted.guard_back guard
      obtain ⟨request, rfl⟩ | ⟨request, rfl⟩ := Request.exists_to_producer own
      · cases leak
      · cases request <;> first | rfl | cases leak
  | consumer =>
      obtain ⟨b, input, rfl⟩ := eq_of_guard_consumer guard
      obtain ⟨request, rfl⟩ | ⟨request, rfl⟩ := Request.exists_to_consumer own
      · cases leak
      · cases request <;> first | rfl | cases leak

/-- A request that cannot be made while the guard is held changes nothing but whether it is. -/
theorem Accounted.step_omitted (accounted : Accounted j s)
    (omitted : s.omits side request = true)
    (resumes : s.isLeaked side = true → request.isWhole side = false) :
    (s.step request).2.resumed side = s.resumed side := by
  cases leaked : s.isLeaked side with
  | true =>
      have own := (omits_of_leaked leaked).symm.trans omitted
      exact step_of_leaked leaked own (resumes leaked)
  | false =>
      obtain ⟨guarded, leak⟩ :=
        Bool.and_eq_true_iff.mp ((omits_of_kept leaked).symm.trans omitted)
      obtain ⟨c, guard⟩ := Option.isSome_iff_exists.mp guarded
      rw [accounted.step_leak guard leak, resumed_of_not_leaked leaked]

/-- A request that can be made while the guard is held is answered as if it were. -/
theorem Accounted.step_shown (accounted : Accounted j s) (within : request.reconnects = false)
    (shown : s.omits side request = false) :
    (s.resumed side).step request = ((s.step request).1, (s.step request).2.resumed side) := by
  cases leaked : s.isLeaked side with
  | false =>
      have keeps := step_of_kept within leaked shown (accounted.answered request).lawful
      rw [resumed_of_not_leaked leaked, resumed_of_not_leaked keeps.not_leaked]
  | true =>
      have other := (omits_of_leaked leaked).symm.trans shown
      cases side with
      | producer =>
          obtain ⟨b, output, rfl⟩ := eq_of_leaked_producer leaked
          obtain ⟨⟨reply, after, stands⟩, answers⟩ := exists_answer_output within other b output
          have answered : (Session.resumed ⟨b, some ⟨.leaked, output⟩⟩ .producer).step request =
              (reply, ⟨after, some ⟨.held b.word.back, stands⟩⟩) := answers (.held b.word.back)
          -- where the guard was held, it was over the back cell to the end
          have place : b.word.back = after.word.back := by
            have later := (accounted.resumed .producer).step request
            rw [answered] at later
            exact later.guard_back rfl
          rw [answered, answers .leaked, place]
          rfl
      | consumer =>
          obtain ⟨b, input, c, rfl⟩ := eq_of_leaked_consumer leaked
          obtain ⟨⟨reply, after, stands⟩, answers⟩ := exists_answer_input within other b input
          rw [answers (.leaked c)]
          exact answers (.held c)

/-- An access that stays open keeps the cell of its guard, whether or not the guard is there. -/
theorem Accounted.guard_kept (accounted : Accounted j s) (within : request.reconnects = false)
    (guard : (s.resumed side).guard? side = some c)
    (stays : (s.step request).2.isOpen side = true) :
    ((s.step request).2.resumed side).guard? side = some c := by
  cases omitted : s.omits side request with
  | true =>
      rw [accounted.step_omitted omitted]
      · exact guard
      · intro leaked
        by_contra whole
        have closes := step_whole leaked (Bool.eq_true_of_not_eq_false whole)
          (accounted.answered request).lawful
        exact Bool.false_ne_true (closes.symm.trans stays)
  | false =>
      have answers := accounted.step_shown within omitted
      have keeps := step_of_kept within (isLeaked_resumed s side) (omits_resumed omitted)
        ((accounted.resumed side).answered request).lawful
      rw [answers] at keeps
      exact keeps.guard c guard ((isOpen_resumed _ side).trans stays)

end

/-! ## Runs -/

/-- A request together with the session to which it is put. -/
structure Asking (α ρ : Type) where
  /-- The session before the request. -/
  session : Session α
  /-- The request. -/
  request : Request α ρ

namespace Asking

variable [Inspect α]

/-- The session after the request. -/
def after (a : Asking α ρ) : Session α :=
  (a.session.step a.request).2

/-- What the request is answered, and the word and the cells after it. -/
def outcome (a : Asking α ρ) : Reply α ρ × Buffer α :=
  ((a.session.step a.request).1, a.after.buffer)

end Asking

/-- Put requests to a session in order, and list them with the sessions they meet. -/
def asked [Inspect α] : List (Request α ρ) → Session α → List (Asking α ρ)
  | [], _ => []
  | request :: rest, s => ⟨s, request⟩ :: asked rest (s.step request).2

/-- The requests of a run that can be made while one side holds its guard. -/
def shown [Inspect α] (requests : List (Request α ρ)) (s : Session α) (side : Race.Side) :
    List (Asking α ρ) :=
  (asked requests s).filter fun a => !a.session.omits side a.request

section

variable [Inspect α] {j : Journal α} {s : Session α} {side : Race.Side} {c : Cell}
  {requests : List (Request α ρ)}

theorem transcript_eq_map (requests : List (Request α ρ)) (s : Session α) :
    transcript requests s = (asked requests s).map fun a => (a.outcome.1, a.outcome.2.word) := by
  induction requests generalizing s with
  | nil => rfl
  | cons request rest induction => exact congrArg (_ :: ·) (induction _)

/-- What is left out of a run changes neither the word nor the cells. -/
theorem Accounted.omitted_silent (accounted : Accounted j s)
    (resumes : ∀ a ∈ asked requests s, a.session.isLeaked side = true →
      a.request.isWhole side = false) :
    ∀ a ∈ asked requests s, a.session.omits side a.request = true →
      a.after.buffer = a.session.buffer := by
  induction requests generalizing j s with
  | nil => nofun
  | cons request rest induction =>
      obtain ⟨resume, resumes⟩ := List.forall_mem_cons.mp resumes
      refine List.forall_mem_cons.mpr ⟨?_, induction (accounted.step request) resumes⟩
      intro omitted
      have same := congrArg Session.buffer (accounted.step_omitted omitted resume)
      rwa [buffer_resumed, buffer_resumed] at same

/-- A run in which one side gives up its guard and takes it up again is, but for what that side asks
meanwhile, the run in which it holds the guard throughout. -/
theorem Accounted.shown_as_held (accounted : Accounted j s)
    (within : ∀ request ∈ requests, request.reconnects = false)
    (resumes : ∀ a ∈ asked requests s, a.session.isLeaked side = true →
      a.request.isWhole side = false) :
    let kept := (shown requests s side).map (·.request)
    (asked kept (s.resumed side)).map (·.outcome) = (shown requests s side).map (·.outcome) ∧
      (∀ a ∈ asked kept (s.resumed side), a.after.isLeaked side = false) ∧
      run kept (s.resumed side) = (run requests s).resumed side := by
  -- the journal is carried along, for it keeps the cells from turning while the guard is gone
  induction requests generalizing j s with
  | nil => exact ⟨rfl, nofun, rfl⟩
  | cons request rest induction =>
      obtain ⟨stays, within⟩ := List.forall_mem_cons.mp within
      obtain ⟨resume, resumes⟩ := List.forall_mem_cons.mp resumes
      have further := induction (accounted.step request) within resumes
      cases omitted : s.omits side request with
      | true =>
          have hidden : shown (request :: rest) s side = shown rest (s.step request).2 side := by
            simp [shown, asked, omitted]
          rw [hidden, ← accounted.step_omitted omitted resume]
          exact further
      | false =>
          have seen : shown (request :: rest) s side =
              ⟨s, request⟩ :: shown rest (s.step request).2 side := by
            simp [shown, asked, omitted]
          have answers := accounted.step_shown stays omitted
          obtain ⟨same, kept, ends⟩ := further
          simp only [seen, List.map_cons, asked, run, answers]
          refine ⟨congrArg₂ List.cons ?_ same, List.forall_mem_cons.mpr ⟨?_, kept⟩, ends⟩
          · simp only [Asking.outcome, Asking.after, answers, buffer_resumed]
          · simp only [Asking.after, answers, isLeaked_resumed]

/-- As long as an access is open, starting again gives a guard over the same cell. -/
theorem Accounted.guard_kept_run (accounted : Accounted j s)
    (within : ∀ request ∈ requests, request.reconnects = false)
    (guard : (s.resumed side).guard? side = some c)
    (stays : ∀ a ∈ asked requests s, a.after.isOpen side = true) :
    ((run requests s).resumed side).guard? side = some c := by
  induction requests generalizing j s with
  | nil => exact guard
  | cons request rest induction =>
      obtain ⟨stay, within⟩ := List.forall_mem_cons.mp within
      obtain ⟨opened, stays⟩ := List.forall_mem_cons.mp stays
      exact induction (accounted.step request) within (accounted.guard_kept stay guard opened) stays

/-- Leaking a guard and resuming the access is the same as keeping the guard.  From any session that
a fresh buffer can come to, take a run with the same handles in which one side resumes each access
that it leaked by starting again; a write or a read without a guard can be spelled out so, by
`write_of_leaked` and `read_of_leaked`.  Leave out that the side gives up its guard, and whatever it
asks until the guard is back; nothing of this changes the word or the cells.  Put to the session in
which the side holds the guard from the start, the remaining requests are answered as they were and
leave the same word and cells at every step, and the side holds its guard until it closes its
access.  The cell that is named when an access is resumed is the one that was named when it was
opened, or resumed, before. -/
theorem leaked_as_held (side : Race.Side) (initial : α) (requests : List (Request α ρ)) :
    let s := run requests (new (.new initial))
    (∀ more : List (Request α ρ), (∀ request ∈ more, request.reconnects = false) →
      (∀ a ∈ asked more s, a.session.isLeaked side = true → a.request.isWhole side = false) →
      let kept := (shown more s side).map (·.request)
      (asked kept (s.resumed side)).map (·.outcome) = (shown more s side).map (·.outcome) ∧
        (∀ a ∈ asked kept (s.resumed side), a.after.isLeaked side = false) ∧
        run kept (s.resumed side) = (run more s).resumed side ∧
        ∀ a ∈ asked more s, a.session.omits side a.request = true →
          a.after.buffer = a.session.buffer) ∧
    ∀ c (between : List (Request α ρ)),
      (s.step (.start side : Request α ρ)).1 = .entered side c →
      let t := (s.step (.start side : Request α ρ)).2
      (∀ request ∈ between, request.reconnects = false) →
      (∀ a ∈ asked between t, a.after.isOpen side = true) →
      (run between t).isLeaked side = true →
      (run between t).step (.start side : Request α ρ) =
        (.entered side c, (run between t).resumed side) := by
  intro s
  have accounted : Accounted (journal requests (new (.new initial))) s :=
    accounted_journal initial requests
  refine ⟨?_, ?_⟩
  · intro more within resumes kept
    obtain ⟨same, held, ends⟩ := accounted.shown_as_held within resumes
    exact ⟨same, held, ends, accounted.omitted_silent resumes⟩
  · intro c between entered t within stays leaked
    have guard := guard?_resumed (guard?_of_entered entered)
    have kept := (accounted.step (.start side)).guard_kept_run within guard stays
    obtain ⟨d, again, answers⟩ := step_start_of_leaked (ρ := ρ) leaked
    cases again.symm.trans kept
    exact answers

end

/-- A value was written. -/
def supplied : Session Nat :=
  run [.owner .connect, (.handles (.input (.write 1)) : Request Nat Unit)] (new (.new 0))

/-- A write of another value and a read of the first one, each of which is leaked and resumed while
the other one is open, and a read thereafter. -/
def suspended : List (Request Nat Unit) :=
  [.start .producer, .handles (.writeGuard (.edit (.set 2))), .handles (.writeGuard .leak),
    .start .consumer, .handles (.readGuard .leak), .handles (.input .isDrained), .start .producer,
    .handles (.writeGuard .finish), .handles (.output .isReady), .start .consumer,
    .handles (.readGuard .finish), .handles (.output .read)]

/-- Whichever of the two guards is held instead of leaked, three requests are left out, and the
others have the same outcomes, to the last one that reads the new value. -/
theorem leaked_as_held_suspended :
    (∀ side, (shown suspended supplied side).length = 9 ∧
      (asked ((shown suspended supplied side).map (·.request)) (supplied.resumed side)).map
        (·.outcome) = (shown suspended supplied side).map (·.outcome)) ∧
      (asked suspended supplied).getLast?.map (·.outcome) =
        some (.value (some 2), ⟨⟨0⟩, ⟨1, 2⟩⟩) ∧
      (supplied.step (.start .producer : Request Nat Unit)).1 = .cell .second ∧
      ((run (suspended.take 6) supplied).step (.start .producer : Request Nat Unit)).1 =
        .cell .second := by
  have within : ∀ request ∈ suspended, request.reconnects = false := by decide
  have resumes (side : Race.Side) : ∀ a ∈ asked suspended supplied,
      a.session.isLeaked side = true → a.request.isWhole side = false := by
    cases side <;> decide +kernel
  refine ⟨fun side => ⟨?_, ?_⟩, rfl, rfl, ?_⟩
  · cases side <;> rfl
  · exact ((leaked_as_held side 0 _).1 suspended within (resumes side)).1
  · exact congrArg Prod.fst ((leaked_as_held .producer 0 _).2 .second (suspended.tail.take 5) rfl
      (by decide) (by decide +kernel) (by decide +kernel))

end Handover.Session
