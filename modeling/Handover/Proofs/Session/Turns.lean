import Handover.Proofs.Session.Journal
import Handover.Proofs.Word.Regions

/-!
# Turns of a session

A request is a few acts in a row.  `Turn` says what each of them finds and what it leaves, and every
invariant of a session is kept turn by turn.

The first of these invariants ties the word to the accesses that the journal holds open.  An open
write access is to the back cell, an open read access to a fresh front cell, and with no access open
a fresh back cell stands behind a fresh front cell only.
-/

namespace Handover

variable {α : Type}

/-! ## Turns -/

/-- What an act finds and what it leaves. -/
inductive Turn (j : Journal α) (b after : Buffer α) : Act α → Prop
  | openWrite {c : Cell} (place : c = b.word.back) (closed : j.writing = none)
      (word : after.word.fields = b.word.fields.entered) (cells : after.cells = b.cells) :
      Turn j b after (.openWrite c)
  | openRead {c : Cell} (place : c = b.word.front) (closed : j.reading = none)
      (ready : b.word.isReady = true) (word : after.word.fields = b.word.fields.entered)
      (cells : after.cells = b.cells) :
      Turn j b after (.openRead c)
  | store {side : Race.Side} {effect : α → α} {access : Access}
      (opened : j.access? side = some access) (word : after.word = b.word)
      (cells : after.cells = b.cells.set (effect (b.load access.cell)) access.cell) :
      Turn j b after (.store side effect)
  | closeWrite {value : α} {access : Access} (opened : j.writing = some access)
      (content : b.load access.cell = value)
      (word : after.word.fields = b.word.fields.writeClosed) (cells : after.cells = b.cells) :
      Turn j b after (.closeWrite value)
  | closeRead {access : ReadAccess} (opened : j.reading = some access)
      (word : after.word.fields = b.word.fields.readClosed access.cell)
      (cells : after.cells = b.cells) :
      Turn j b after .closeRead
  | connect (word : after.word.fields = b.word.fields.atRest) (cells : after.cells = b.cells) :
      Turn j b after .connect

/-- What a row of acts finds and leaves. -/
inductive Turns : Journal α → Buffer α → List (Act α) → Buffer α → Prop
  | done {j : Journal α} {b : Buffer α} : Turns j b [] b
  | next {j : Journal α} {b between after : Buffer α} {act : Act α} {acts : List (Act α)}
      (turn : Turn j b between act) (rest : Turns (j.note act) between acts after) :
      Turns j b (act :: acts) after

/-- What every turn keeps is kept by a row of acts. -/
theorem Turns.keep {motive : Journal α → Buffer α → Prop}
    (kept : ∀ {j b after act}, motive j b → Turn j b after act → motive (j.note act) after)
    {j : Journal α} {b after : Buffer α} {acts : List (Act α)} (turns : Turns j b acts after)
    (start : motive j b) : motive (acts.foldl Journal.note j) after := by
  induction turns with
  | done => exact start
  | next turn rest induction => exact induction (kept start turn)

theorem Turns.single {j : Journal α} {b after : Buffer α} {act : Act α}
    (turn : Turn j b after act) : Turns j b [act] after :=
  .next turn .done

theorem Turns.append {j : Journal α} {b between after : Buffer α} {first second : List (Act α)}
    (turns : Turns j b first between)
    (rest : Turns (first.foldl Journal.note j) between second after) :
    Turns j b (first ++ second) after := by
  induction turns with
  | done => exact rest
  | next turn _ induction => exact .next turn (induction rest)

/-! ## Open accesses and the word -/

/-- How the open accesses of a journal stand with the fields of the word. -/
structure Journal.Coherent (j : Journal α) (f : Fields) : Prop where
  spare : f.spare = 0
  /-- Every open access is counted, and nothing else. -/
  count : f.openCount = j.writing.isSome.toNat + j.reading.isSome.toNat
  /-- With nobody inside, a fresh back cell is kept waiting by a fresh front cell only. -/
  settled : f.openCount = 0 → f.fresh.get f.back = true → f.fresh.get f.front = true
  writer : ∀ a, j.writing = some a → a.cell = f.back
  reader : ∀ a, j.reading = some a → a.cell = f.front ∧ f.fresh.get f.front = true

namespace Journal.Coherent

variable {j : Journal α} {f : Fields}

theorem none_open (coherent : j.Coherent f) (vacant : f.openCount = 0) :
    j.writing = none ∧ j.reading = none := by
  have count := coherent.count.symm.trans vacant
  obtain ⟨writer, reader⟩ := Nat.add_eq_zero_iff.mp count
  constructor
  · simpa using writer
  · simpa using reader

theorem vacant (coherent : j.Coherent f) (none_open : j.writing = none ∧ j.reading = none) :
    f.openCount = 0 := by
  rw [coherent.count, none_open.1, none_open.2]
  rfl

theorem openWrite (coherent : j.Coherent f) (closed : j.writing = none) :
    (j.note (.openWrite f.back)).Coherent f.entered where
  spare := coherent.spare
  count := by
    have count := coherent.count
    rw [closed] at count
    simp [note, enter, Fields.entered, count, Nat.add_comm]
  settled vacant := absurd vacant (Nat.succ_ne_zero _)
  writer a opened := by
    cases opened
    rfl
  reader := coherent.reader

theorem openRead (coherent : j.Coherent f) (closed : j.reading = none)
    (ready : f.fresh.get f.front = true) : (j.note (.openRead f.front)).Coherent f.entered where
  spare := coherent.spare
  count := by
    have count := coherent.count
    rw [closed] at count
    simp [note, enter, Fields.entered, count]
  settled vacant := absurd vacant (Nat.succ_ne_zero _)
  writer := coherent.writer
  reader a opened := by
    cases opened
    exact ⟨rfl, ready⟩

theorem closeWrite {access : Access} (coherent : j.Coherent f)
    (opened : j.writing = some access) (value : α) :
    (j.note (.closeWrite value)).Coherent f.writeClosed := by
  have count := coherent.count
  rw [note_closeWrite opened]
  rw [opened] at count
  cases reading : j.reading with
  | none =>
      have alone : f.openCount = 1 := by simpa [reading] using count
      rw [Fields.writeClosed_of_alone alone]
      refine ⟨coherent.spare, ?_, ?_, ?_, ?_⟩
      · simp [Fields.presented, Fields.published, alone]
      · intro _ fresh
        exact absurd fresh (by simp [Fields.presented])
      · rintro a ⟨⟩
      · rintro a ⟨⟩
  | some access =>
      have shared : f.openCount = 2 := by simpa [reading] using count
      obtain ⟨place, fresh⟩ := coherent.reader _ reading
      rw [Fields.writeClosed_of_shared (by omega)]
      refine ⟨coherent.spare, ?_, ?_, ?_, ?_⟩
      · simp [Fields.published, shared]
      · intro vacant
        simp [Fields.published, shared] at vacant
      · rintro a ⟨⟩
      · rintro a ⟨⟩
        exact ⟨place, (Fields.get_fresh_published_of_ne Fields.front_ne_back).trans fresh⟩

theorem closeRead {access : ReadAccess} (coherent : j.Coherent f)
    (opened : j.reading = some access) :
    (j.note .closeRead).Coherent (f.readClosed access.cell) := by
  have count := coherent.count
  obtain ⟨place, fresh⟩ := coherent.reader _ opened
  have cleared : (f.released f.front).fresh.get f.front = false := Fields.get_fresh_released _
  rw [note_closeRead opened, place]
  rw [opened] at count
  refine ⟨by simp [coherent.spare], by simp [count], ?_, ?_, nofun⟩
  · intro vacant marked
    rw [Fields.openCount_readClosed] at vacant
    unfold Fields.readClosed at marked ⊢
    split at marked
    · exact absurd (cleared.symm.trans marked) Bool.false_ne_true
    · next still => exact absurd ⟨vacant, marked⟩ still
  · intro a writing
    have shared : f.openCount = 2 := by simpa [show j.writing = some a from writing] using count
    have busy : (f.released f.front).openCount ≠ 0 := by simp [Fields.released, shared]
    rw [Fields.readClosed, if_neg fun vacant => busy vacant.1]
    exact coherent.writer a writing

theorem connect (coherent : j.Coherent f) : (j.note .connect).Coherent f.atRest where
  spare := by simp [coherent.spare]
  count := by simp [note, enter]
  settled _ marked := by
    by_cases held : f.fresh.get f.back = true ∧ f.fresh.get f.front = false
    · rw [Fields.atRest, if_pos held]
      exact (congrArg f.fresh.get (Cell.other_other _)).trans held.1
    · rw [Fields.atRest, if_neg held] at marked ⊢
      exact Bool.of_not_eq_false fun drained => held ⟨marked, drained⟩
  writer := nofun
  reader := nofun

/-- Every turn leaves the word coherent. -/
theorem turn {b after : Buffer α} {act : Act α} (coherent : j.Coherent b.word.fields)
    (turn : Turn j b after act) : (j.note act).Coherent after.word.fields := by
  cases turn with
  | openWrite place closed word cells =>
      rw [place, word]
      exact coherent.openWrite closed
  | openRead place closed ready word cells =>
      rw [place, word]
      exact coherent.openRead closed (b.word.isReady_eq.symm.trans ready)
  | store opened word cells =>
      rw [note_store opened, word]
      exact ⟨coherent.spare, coherent.count, coherent.settled, coherent.writer, coherent.reader⟩
  | closeWrite opened content word cells =>
      rw [word]
      exact coherent.closeWrite opened _
  | closeRead opened word cells =>
      rw [word]
      exact coherent.closeRead opened
  | connect word cells =>
      rw [word]
      exact coherent.connect

end Journal.Coherent

end Handover
