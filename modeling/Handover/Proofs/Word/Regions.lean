import Handover.Proofs.Word.Fields
import Handover.Word.Region

/-!
# Fields and undisturbed accesses

Closing an access while the other side stands still changes the fields in at most two ways: the
access is counted no more, and whoever is the last to leave brings a newer value to the front.
Putting the word at rest forgets all open accesses in the same manner, and never gives up a value.
-/

namespace Handover

namespace Fields

/-- The fields after a write access was closed: with nobody inside any more, the value that was
published comes to the front. -/
def writeClosed (f : Fields) : Fields :=
  if f.published.openCount = 0 then f.published.presented else f.published

/-- The fields after a read access to a cell was closed: with nobody inside any more, a value
published meanwhile comes to the front. -/
def readClosed (f : Fields) (c : Cell) : Fields :=
  if (f.released c).openCount = 0 ∧ (f.released c).fresh.get (f.released c).back = true then
    (f.released c).turned
  else f.released c

/-- The fields once nobody is inside any more: a fresh back cell comes to the front, unless a fresh
value waits there already. -/
def atRest (f : Fields) : Fields :=
  if f.fresh.get f.back = true ∧ f.fresh.get f.front = false then f.vacated.turned else f.vacated

variable {f : Fields} {c : Cell}

theorem writeClosed_of_alone (alone : f.openCount = 1) :
    f.writeClosed = f.published.presented := by
  have vacant : f.published.openCount = 0 := by simp [published, alone]
  rw [writeClosed, if_pos vacant]

/-- A write access that is closed with nobody else inside leaves something to read. -/
theorem fresh_front_writeClosed (alone : f.openCount = 1) :
    f.writeClosed.fresh.get f.writeClosed.front = true := by
  have kept : f.published.presented.fresh.get f.back = f.published.fresh.get f.back :=
    get_fresh_presented_of_ne front_ne_back.symm
  rw [writeClosed_of_alone alone, front_presented]
  exact kept.trans get_fresh_published

theorem writeClosed_of_shared (shared : 1 < f.openCount) : f.writeClosed = f.published := by
  have busy : f.published.openCount ≠ 0 := by
    change f.openCount - 1 ≠ 0
    omega
  rw [writeClosed, if_neg busy]

/-- Closing a write access makes no other cell fresh. -/
theorem fresh_of_writeClosed (other : c ≠ f.back) (marked : f.writeClosed.fresh.get c = true) :
    f.fresh.get c = true := by
  have kept := get_fresh_published_of_ne (f := f) other
  unfold writeClosed at marked
  split at marked
  · by_cases front : c = f.front
    · rw [front] at marked
      exact absurd marked (by simp [presented, published, Fields.front])
    · exact absurd (eq_back_of_ne_front front) other
  · exact kept.symm.trans marked

@[simp]
theorem spare_writeClosed : f.writeClosed.spare = f.spare := by
  unfold writeClosed
  split <;> rfl

@[simp]
theorem openCount_readClosed : (f.readClosed c).openCount = f.openCount - 1 := by
  unfold readClosed
  split <;> rfl

@[simp]
theorem spare_readClosed : (f.readClosed c).spare = f.spare := by
  unfold readClosed
  split <;> rfl

/-- Closing a read access clears one flag and leaves the other. -/
@[simp]
theorem fresh_readClosed : (f.readClosed c).fresh = f.fresh.set false c := by
  unfold readClosed
  split <;> rfl

/-- A read that starts and ends with nobody else inside brings a fresh back cell to the front. -/
theorem readClosed_entered (vacant : f.openCount = 0) (behind : f.fresh.get f.back = true) :
    f.entered.readClosed f.front = f.presented := by
  have left : (f.entered.released f.front).openCount = 0 := by
    simp [released, entered, vacant]
  have kept : (f.entered.released f.front).fresh.get (f.entered.released f.front).back = true :=
    (get_fresh_released_of_ne front_ne_back.symm).trans behind
  rw [readClosed, if_pos ⟨left, kept⟩]
  simp [released, entered, turned, presented, front]

@[simp]
theorem openCount_atRest : f.atRest.openCount = 0 := by
  unfold atRest
  split <;> rfl

@[simp]
theorem spare_atRest : f.atRest.spare = f.spare := by
  unfold atRest
  split <;> rfl

/-- Putting the word at rest gives up no value. -/
@[simp]
theorem fresh_atRest : f.atRest.fresh = f.fresh := by
  unfold atRest
  split <;> rfl

/-- Fields are at rest already if nobody is inside and no fresh back cell stands behind an empty
front cell. -/
theorem atRest_eq_self (vacant : f.openCount = 0)
    (settled : f.fresh.get f.back = true → f.fresh.get f.front = true) : f.atRest = f := by
  have turns : ¬ (f.fresh.get f.back = true ∧ f.fresh.get f.front = false) := by
    rintro ⟨behind, front⟩
    exact Bool.false_ne_true (front.symm.trans (settled behind))
  rw [atRest, if_neg turns, vacated, ← vacant]

end Fields

namespace Word

/-- A word without spare bits is below 32. -/
theorem bits_lt_of_spare {w : Word} (unspared : w.spare = 0) : w.bits < 32 := by
  rw [UInt64.lt_iff_toNat_lt]
  exact Nat.lt_of_div_eq_zero (by decide) unspared

/-- Nothing is fresh, open or spare in the initial word. -/
theorem fields_initial : initial.fields = ⟨.first, 0, .both false, 0⟩ := by
  decide

theorem isReady_eq (w : Word) : w.isReady = w.fields.fresh.get w.fields.front :=
  (w.fresh_fields _).symm

theorem isDrained_eq (w : Word) : w.isDrained = !(w.isFresh w.back || w.isFresh w.front) := by
  unfold isDrained front
  cases w.back <;> simp only [Cell.other, Bool.or_comm]

theorem fields_atRest (w : Word) : w.atRest.fields = w.fields.atRest := by
  have idle := w.fields_vacated
  have back : w.vacated.isFresh w.vacated.back = w.fields.fresh.get w.fields.back := by
    rw [← fresh_fields, ← back_fields, idle]
    rfl
  have front : w.vacated.isFresh w.vacated.front = w.fields.fresh.get w.fields.front := by
    rw [← fresh_fields, ← front_fields, idle]
    rfl
  simp only [atRest, Fields.atRest, back, front, Bool.and_eq_true, Bool.not_eq_true']
  split
  · rw [fields_turned, idle]
  · exact idle

/-- Putting the word at rest keeps the flag of every cell. -/
theorem isFresh_atRest (w : Word) (c : Cell) : w.atRest.isFresh c = w.isFresh c := by
  rw [← fresh_fields, fields_atRest, Fields.fresh_atRest, fresh_fields]

theorem openRead_of_ready {w : Word} (room : w.openCount < 2) (ready : w.isReady = true) :
    w.openRead = (w.entered, .ok (some w.front)) := by
  rw [openRead, if_pos ready, enterRead_eq room ready]
  rfl

theorem openRead_of_empty {w : Word} (empty : w.isReady = false) :
    w.openRead = (w, .ok none) := by
  rw [openRead, empty]
  rfl

theorem closeWrite_eq {w : Word} (busy : 0 < w.openCount) :
    ∃ left : Word, left.fields = w.fields.writeClosed ∧ w.closeWrite = (left, .ok ()) := by
  obtain ⟨left, effect, closes⟩ := publish_eq busy
  rw [closeWrite, closes, owedByProducer, Fields.writeClosed, ← effect, openCount_fields]
  split
  · refine ⟨left.presented, left.fields_presented, ?_⟩
    rw [settleOwed, Exchange.attempt_expected ⟨left, left.presented⟩]
  · exact ⟨left, rfl, rfl⟩

theorem closeRead_eq {w : Word} {c : Cell} (busy : 0 < w.openCount) (fresh : w.isFresh c) :
    ∃ left : Word, left.fields = w.fields.readClosed c ∧ w.closeRead c.flag = (left, .ok ()) := by
  obtain ⟨left, effect, closes⟩ := release_eq busy fresh
  rw [closeRead, closes, owedByConsumer, Fields.readClosed, ← effect, openCount_fields,
    fresh_fields, back_fields]
  split
  · refine ⟨left.turned, left.fields_turned, ?_⟩
    rw [settleOwed, Exchange.attempt_expected ⟨left, left.turned⟩]
  · exact ⟨left, rfl, rfl⟩

end Word

end Handover
