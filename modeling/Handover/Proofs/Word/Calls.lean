import Handover.Call
import Handover.Proofs.Word.Regions

/-!
# Calls in their turn

Each side opens and closes its accesses in turn, and the word is put at rest only while no access is
open.  Then no call faults, whatever the flags of the word and the bits above them.  A call reads and
changes the fields alone, so that its answer and what it makes of the five lowest bits do not depend
on the bits above, and these are carried along unchanged.
-/

namespace Handover

/-! ## Without spare bits -/

namespace Fields

/-- The fields with no spare bit set. -/
def bare (f : Fields) : Fields :=
  { f with spare := 0 }

variable {f : Fields}

theorem bare_writeClosed : f.writeClosed.bare = f.bare.writeClosed :=
  apply_ite bare _ _ _

theorem bare_readClosed (c : Cell) : (f.readClosed c).bare = f.bare.readClosed c :=
  apply_ite bare _ _ _

theorem bare_atRest : f.atRest.bare = f.bare.atRest :=
  apply_ite bare _ _ _

end Fields

namespace Word

/-- The word with no spare bit set. -/
def bare (w : Word) : Word :=
  ⟨w.bits &&& 31⟩

theorem toNat_bits_bare (w : Word) : w.bare.bits.toNat = w.bits.toNat % 32 := by
  rw [bare, UInt64.toNat_and]
  exact Nat.and_two_pow_sub_one_eq_mod w.bits.toNat 5

theorem fields_bare (w : Word) : w.bare.fields = w.fields.bare := by
  apply fields_eq_of_packed w.openCount_lt
  have sum := w.packed_fields
  have low := w.toNat_bits_bare
  simp only [Fields.packed, Fields.bare, spare_fields, spare] at sum ⊢
  omega

/-- The spare bits are those that are left when the fields are shifted out. -/
theorem toNat_shiftRight_eq_spare (w : Word) : (w.bits >>> 5).toNat = w.spare := by
  rw [UInt64.toNat_shiftRight]
  exact Nat.shiftRight_eq_div_pow w.bits.toNat 5

end Word

/-! ## What a call does -/

/-- Cell with a given number. -/
def Cell.ofIndex : Nat → Cell
  | 0 => .first
  | _ => .second

theorem Cell.ofIndex_index (c : Cell) : ofIndex c.index = c := by
  cases c <;> rfl

/-- What a call in its turn makes of the fields, and what it answers. -/
def Call.effect (f : Fields) : Call → Fields × Call.Answer
  | .openWrite => (f.entered, .cell f.back)
  | .closeWrite => (f.writeClosed, .done)
  | .openRead =>
      if f.fresh.get f.front then (f.entered, .entry (some f.front)) else (f, .entry none)
  | .closeRead index => (f.readClosed (.ofIndex index), .done)
  | .connect => (f.atRest, .done)
  | .isDrained => (f, .truth !(f.fresh.get .first || f.fresh.get .second))
  | .isReady => (f, .truth (f.fresh.get f.front))

namespace Call

variable {f : Fields}

/-- A call does not look at the spare bits. -/
theorem effect_bare (call : Call) :
    call.effect f.bare = ((call.effect f).1.bare, (call.effect f).2) := by
  cases call with
  | openWrite | isDrained | isReady => rfl
  | closeWrite => exact Prod.ext Fields.bare_writeClosed.symm rfl
  | openRead =>
      have same : f.bare.fresh.get f.bare.front = f.fresh.get f.front := rfl
      simp only [effect, same]
      split <;> rfl
  | closeRead index => exact Prod.ext (Fields.bare_readClosed _).symm rfl
  | connect => exact Prod.ext Fields.bare_atRest.symm rfl

/-- A call leaves the spare bits as they are. -/
theorem spare_effect (call : Call) : (call.effect f).1.spare = f.spare := by
  cases call with
  | openWrite | isDrained | isReady => rfl
  | closeWrite => exact Fields.spare_writeClosed
  | openRead =>
      simp only [effect]
      split <;> rfl
  | closeRead index => exact Fields.spare_readClosed
  | connect => exact Fields.spare_atRest

end Call

/-! ## Turns of the two sides -/

/-- The accesses that calls have open. -/
structure Occupancy where
  /-- A write access is open. -/
  writing : Bool
  /-- Cell to which a read access is open. -/
  reading : Option Cell
  deriving DecidableEq

namespace Occupancy

/-- No access is open. -/
def vacant : Occupancy :=
  ⟨false, none⟩

/-- Whether a call is in its turn.  A read access is closed to the cell to which it was opened. -/
def allows (o : Occupancy) : Call → Bool
  | .openWrite => !o.writing
  | .closeWrite => o.writing
  | .openRead => o.reading.isNone
  | .closeRead index => o.reading.map (·.index) = some index
  | .connect => o = vacant
  | .isDrained | .isReady => true

/-- The open accesses after a call that was answered. -/
def after (o : Occupancy) : Call → Except Fault Call.Answer → Occupancy
  | .openWrite, _ => { o with writing := true }
  | .closeWrite, _ => { o with writing := false }
  | .openRead, .ok (.entry c) => { o with reading := c }
  | .closeRead _, _ => { o with reading := none }
  | _, _ => o

/-- Whether calls that are made in order, starting from a word, are each in its turn. -/
def permits : Occupancy → Word → List Call → Bool
  | _, _, [] => true
  | o, w, call :: rest =>
      o.allows call && permits (o.after call (call.perform w).2) (call.perform w).1 rest

/-- How the open accesses stand with the fields of the word. -/
structure Fits (o : Occupancy) (f : Fields) : Prop where
  count : f.openCount = o.writing.toNat + o.reading.isSome.toNat
  reader : ∀ c, o.reading = some c → c = f.front ∧ f.fresh.get f.front = true

namespace Fits

variable {o : Occupancy} {f : Fields} {w : Word} {call : Call} {calls : List Call}

theorem of_vacant (vacant : f.openCount = 0) : Occupancy.vacant.Fits f :=
  ⟨vacant, nofun⟩

theorem bare (fits : o.Fits f) : o.Fits f.bare :=
  ⟨fits.count, fits.reader⟩

/-! ### The fields -/

theorem openWrite (fits : o.Fits f) (idle : o.writing = false) :
    Fits { o with writing := true } f.entered where
  count := by
    have count := fits.count
    rw [idle] at count
    simp only [Fields.entered, count, Bool.toNat_false, Bool.toNat_true]
    omega
  reader := fits.reader

theorem closeWrite (fits : o.Fits f) (busy : o.writing = true) :
    Fits { o with writing := false } f.writeClosed := by
  have count := fits.count
  rw [busy] at count
  cases reading : o.reading with
  | none =>
      have alone : f.openCount = 1 := by simpa [reading] using count
      rw [Fields.writeClosed_of_alone alone]
      refine ⟨?_, nofun⟩
      simp [Fields.presented, Fields.published, alone]
  | some c =>
      have shared : f.openCount = 2 := by simpa [reading] using count
      obtain ⟨place, fresh⟩ := fits.reader c reading
      rw [Fields.writeClosed_of_shared (by omega)]
      refine ⟨?_, ?_⟩
      · simp [Fields.published, shared]
      · rintro d ⟨⟩
        exact ⟨place, (Fields.get_fresh_published_of_ne Fields.front_ne_back).trans fresh⟩

theorem openRead (fits : o.Fits f) (idle : o.reading = none) (ready : f.fresh.get f.front = true) :
    Fits { o with reading := some f.front } f.entered where
  count := by
    have count := fits.count
    rw [idle] at count
    simpa [Fields.entered] using count
  reader c reading := by
    cases reading
    exact ⟨rfl, ready⟩

theorem closeRead {c : Cell} (fits : o.Fits f) (busy : o.reading = some c) :
    Fits { o with reading := none } (f.readClosed c) where
  count := by
    have count := fits.count
    rw [busy] at count
    simp [count]
  reader := nofun

/-- After a call in its turn, the fields count the accesses that are open then. -/
theorem effect (fits : o.Fits f) (allowed : o.allows call = true) :
    (o.after call (.ok (call.effect f).2)).Fits (call.effect f).1 := by
  cases call with
  | openWrite => exact fits.openWrite (Bool.not_eq_eq_eq_not.mp allowed)
  | closeWrite => exact fits.closeWrite allowed
  | openRead =>
      have idle : o.reading = none := Option.isNone_iff_eq_none.mp allowed
      cases ready : f.fresh.get f.front with
      | true =>
          simp only [Call.effect, ready, if_true]
          exact fits.openRead idle ready
      | false =>
          simp only [Call.effect, ready, Bool.false_eq_true, if_false, after, ← idle]
          exact fits
  | closeRead index =>
      obtain ⟨c, reading, rfl⟩ := Option.map_eq_some_iff.mp (of_decide_eq_true allowed)
      simp only [Call.effect, Cell.ofIndex_index]
      exact fits.closeRead reading
  | connect =>
      obtain rfl : o = vacant := of_decide_eq_true allowed
      exact .of_vacant Fields.openCount_atRest
  | isDrained | isReady => exact fits

/-! ### The word -/

/-- A call in its turn does not fault, and does to the fields what it should. -/
theorem perform (fits : o.Fits w.fields) (allowed : o.allows call = true) :
    ∃ left : Word, left.fields = (call.effect w.fields).1 ∧
      call.perform w = (left, .ok (call.effect w.fields).2) := by
  have count : w.openCount = o.writing.toNat + o.reading.isSome.toNat := fits.count
  cases call with
  | openWrite =>
      have idle : o.writing = false := Bool.not_eq_eq_eq_not.mp allowed
      have room : w.openCount < 2 := by
        have one := o.reading.isSome.toNat_le
        rw [idle, Bool.toNat_false] at count
        omega
      refine ⟨w.entered, Word.fields_entered (by omega), ?_⟩
      simp only [Call.perform, Word.openWrite, Word.enterWrite_eq room]
      rfl
  | closeWrite =>
      have busy : o.writing = true := allowed
      have busy : 0 < w.openCount := by
        rw [count, busy, Bool.toNat_true]
        omega
      obtain ⟨left, effect, closes⟩ := Word.closeWrite_eq busy
      refine ⟨left, effect, ?_⟩
      simp only [Call.perform, closes]
      rfl
  | openRead =>
      have idle : o.reading = none := Option.isNone_iff_eq_none.mp allowed
      cases ready : w.isReady with
      | true =>
          have room : w.openCount < 2 := by
            have one := o.writing.toNat_le
            rw [idle, Option.isSome_none, Bool.toNat_false] at count
            omega
          simp only [Call.effect, ← w.isReady_eq, ready, if_true]
          refine ⟨w.entered, Word.fields_entered (by omega), ?_⟩
          simp only [Call.perform, Word.openRead_of_ready room ready]
          rfl
      | false =>
          simp only [Call.effect, ← w.isReady_eq, ready, Bool.false_eq_true, if_false]
          refine ⟨w, rfl, ?_⟩
          simp only [Call.perform, Word.openRead_of_empty ready]
          rfl
  | closeRead index =>
      obtain ⟨c, reading, rfl⟩ := Option.map_eq_some_iff.mp (of_decide_eq_true allowed)
      have busy : 0 < w.openCount := by
        rw [count, reading, Option.isSome_some, Bool.toNat_true]
        omega
      have fresh : w.isFresh c = true := by
        obtain ⟨place, fresh⟩ := fits.reader c reading
        rw [← Word.fresh_fields, place]
        exact fresh
      obtain ⟨left, effect, closes⟩ := Word.closeRead_eq busy fresh
      simp only [Call.effect, Cell.ofIndex_index]
      refine ⟨left, effect, ?_⟩
      simp only [Call.perform, Word.closeReadAt_index, closes]
      rfl
  | connect => exact ⟨w.atRest, w.fields_atRest, rfl⟩
  | isDrained => exact ⟨w, rfl, rfl⟩
  | isReady =>
      refine ⟨w, rfl, ?_⟩
      rw [Call.perform, w.isReady_eq]
      rfl

/-- The spare bits make no difference to a call in its turn. -/
theorem perform_bare (fits : o.Fits w.fields) (allowed : o.allows call = true) :
    call.perform w.bare = ((call.perform w).1.bare, (call.perform w).2) := by
  obtain ⟨left, effect, performs⟩ := fits.perform allowed
  have fits_bare : o.Fits w.bare.fields := w.fields_bare ▸ fits.bare
  obtain ⟨low, effect_low, performs_low⟩ := fits_bare.perform allowed
  rw [w.fields_bare, Call.effect_bare] at effect_low performs_low
  have same : low = left.bare := by
    apply Word.fields_injective
    rw [effect_low, left.fields_bare, effect]
  rw [performs, performs_low, same]

/-- Calls in their turn do not fault, keep the spare bits and do not depend on them. -/
theorem performAll (fits : o.Fits w.fields) (permitted : o.permits w calls = true) :
    Call.performAll w.bare calls =
        (Call.performAll w calls).map (fun entry => (entry.1, entry.2.bare)) ∧
      ∀ entry ∈ Call.performAll w calls,
        (∃ answer, entry.1 = .ok answer) ∧ entry.2.spare = w.spare := by
  induction calls generalizing o w with
  | nil => exact ⟨rfl, nofun⟩
  | cons call rest induction =>
      obtain ⟨allowed, permitted⟩ := Bool.and_eq_true_iff.mp permitted
      have same := fits.perform_bare allowed
      obtain ⟨left, effect, performs⟩ := fits.perform allowed
      have spare : left.spare = w.spare := by
        rw [← Word.spare_fields, effect, Call.spare_effect, Word.spare_fields]
      rw [performs] at permitted same
      obtain ⟨rest_same, rest_lawful⟩ := induction (effect ▸ fits.effect allowed) permitted
      simp only [Call.performAll, performs, same]
      refine ⟨congrArg (_ :: ·) rest_same, List.forall_mem_cons.mpr ⟨⟨⟨_, rfl⟩, spare⟩, ?_⟩⟩
      intro entry among
      obtain ⟨lawful, kept⟩ := rest_lawful entry among
      exact ⟨lawful, kept.trans spare⟩

end Fits

end Occupancy

namespace Call

/-- Start from any word in which no access is open, whatever its flags, its back cell and its other
bits, and make calls that are each in its turn.  None of them faults.  Each answers what it answers
when the calls start from the five lowest bits of the word, and the five lowest bits of the word
after it are the word after it there.  The bits above stay those of the first word. -/
theorem spare_bits_carried_along (w : Word) (calls : List Call) (vacant : w.openCount = 0)
    (permitted : Occupancy.vacant.permits w calls = true) :
    performAll w.bare calls = (performAll w calls).map (fun entry => (entry.1, entry.2.bare)) ∧
      ∀ entry ∈ performAll w calls,
        (∃ answer, entry.1 = .ok answer) ∧ entry.2.bits >>> 5 = w.bits >>> 5 := by
  have fits : Occupancy.vacant.Fits w.fields := .of_vacant vacant
  obtain ⟨same, lawful⟩ := fits.performAll permitted
  refine ⟨same, fun entry among => ?_⟩
  obtain ⟨answered, kept⟩ := lawful entry among
  refine ⟨answered, UInt64.toNat_inj.mp ?_⟩
  rw [Word.toNat_shiftRight_eq_spare, Word.toNat_shiftRight_eq_spare, kept]

/-- Every bit is set but those that count open accesses and the one that tells the back cell. -/
def crammed : Word :=
  ⟨0xFFFFFFFFFFFFFFF8⟩

/-- A cell that is fresh already is written while the other one is read, and both again. -/
def overlapping : List Call :=
  [.openWrite, .openRead, .closeWrite, .closeRead 1, .isDrained, .openRead, .openWrite,
    .closeRead 0, .closeWrite, .connect, .isReady]

/-- The first publication adds a negative amount, and the first read turns the cells. -/
theorem spare_bits_carried_along_crammed :
    crammed.openCount = 0 ∧ Occupancy.vacant.permits crammed overlapping = true ∧
      performAll ⟨24⟩ overlapping =
        (performAll crammed overlapping).map (fun entry => (entry.1, entry.2.bare)) ∧
      ∀ entry ∈ performAll crammed overlapping, entry.2.bits >>> 5 = 0x7FFFFFFFFFFFFFF := by
  have vacant : crammed.openCount = 0 := by decide
  have permitted : Occupancy.vacant.permits crammed overlapping = true := by decide +kernel
  obtain ⟨same, kept⟩ := spare_bits_carried_along crammed overlapping vacant permitted
  exact ⟨vacant, permitted, same, fun entry among => (kept entry among).2⟩

end Call

end Handover
