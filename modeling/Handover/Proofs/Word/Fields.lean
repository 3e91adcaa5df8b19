import Mathlib.Data.Nat.Bitwise
import Handover.Word.Atomic

/-!
# The fields of a state word

A state word is the sum of its fields, each at its own weight.  `Fields` keeps them apart, and
`Word.fields_eq_of_packed` reads them off again from any such sum.  Every word that an access leaves
behind is found in this way: one lemma says which fields the access changes, and that the others,
the spare bits included, stay.
-/

namespace Handover

theorem Cells.set_get_self {α : Type} (cells : Cells α) (c : Cell) :
    cells.set (cells.get c) c = cells := by
  cases c <;> rfl

/-- Sum of the flags of the cells that are marked. -/
def Cells.packedFlags (marks : Cells Bool) : Nat :=
  Cell.first.flag.toNat * (marks.get .first).toNat
    + Cell.second.flag.toNat * (marks.get .second).toNat

/-- The fields of a state word, each on its own. -/
structure Fields where
  /-- The cell which the producer fills. -/
  back : Cell
  /-- Number of accesses that were opened and not closed yet. -/
  openCount : Nat
  /-- For each cell, whether it holds a published value that nobody consumed. -/
  fresh : Cells Bool
  /-- The bits above the others, as a number. -/
  spare : Nat
  deriving DecidableEq

namespace Fields

/-- The cell which the consumer empties. -/
def front (f : Fields) : Cell :=
  f.back.other

/-- The fields with one more open access. -/
def entered (f : Fields) : Fields :=
  { f with openCount := f.openCount + 1 }

/-- The fields after a write access was closed, which makes the back cell fresh. -/
def published (f : Fields) : Fields :=
  { f with openCount := f.openCount - 1, fresh := f.fresh.set true f.back }

/-- The fields after a read access was closed to a cell, which is fresh no more. -/
def released (f : Fields) (c : Cell) : Fields :=
  { f with openCount := f.openCount - 1, fresh := f.fresh.set false c }

/-- The fields with the two cells in each other's place. -/
def turned (f : Fields) : Fields :=
  { f with back := f.front }

/-- The fields after the back cell was brought to the front, and the value it supersedes there was
given up. -/
def presented (f : Fields) : Fields :=
  { f with back := f.front, fresh := f.fresh.set false f.front }

/-- The fields with no open access. -/
def vacated (f : Fields) : Fields :=
  { f with openCount := 0 }

/-- Addend which makes the back cell fresh, if it is not so yet, and closes one access. -/
def publishAddend (f : Fields) : UInt64 :=
  (if f.fresh.get f.back then 0 else f.back.flag) - Word.oneAccess

/-- Sum of the fields at their weights. -/
def packed (f : Fields) : Nat :=
  f.back.index + 2 * f.openCount + f.fresh.packedFlags + 32 * f.spare

variable {f : Fields}

theorem front_ne_back : f.front ≠ f.back := Cell.other_ne f.back

theorem eq_back_of_ne_front {c : Cell} (other : c ≠ f.front) : c = f.back := by
  revert other
  unfold front
  cases f.back <;> cases c <;> simp [Cell.other]

@[simp]
theorem front_presented : f.presented.front = f.back := Cell.other_other f.back

@[simp]
theorem get_fresh_published : f.published.fresh.get f.back = true := Cells.get_set_self _ _ _

theorem get_fresh_published_of_ne {c : Cell} (other : c ≠ f.back) :
    f.published.fresh.get c = f.fresh.get c := Cells.get_set_of_ne _ _ other

@[simp]
theorem get_fresh_presented : f.presented.fresh.get f.front = false := Cells.get_set_self _ _ _

theorem get_fresh_presented_of_ne {c : Cell} (other : c ≠ f.front) :
    f.presented.fresh.get c = f.fresh.get c := Cells.get_set_of_ne _ _ other

/-- With nothing fresh in front, turning the cells gives up nothing. -/
theorem turned_eq_presented (drained : f.fresh.get f.front = false) : f.turned = f.presented := by
  rw [turned, presented, ← drained, Cells.set_get_self]

@[simp]
theorem get_fresh_released (c : Cell) : (f.released c).fresh.get c = false :=
  Cells.get_set_self _ _ _

theorem get_fresh_released_of_ne {c d : Cell} (other : d ≠ c) :
    (f.released c).fresh.get d = f.fresh.get d := Cells.get_set_of_ne _ _ other

end Fields

theorem Cell.index_injective {c d : Cell} (same : c.index = d.index) : c = d := by
  cases c <;> cases d <;> first | rfl | contradiction

theorem Cells.packedFlags_set (marks : Cells Bool) (mark : Bool) (c : Cell) :
    (marks.set mark c).packedFlags + c.flag.toNat * (marks.get c).toNat =
      marks.packedFlags + c.flag.toNat * mark.toNat := by
  cases c <;> simp only [packedFlags, set, get] <;> omega

theorem Cells.packedFlags_le (marks : Cells Bool) : marks.packedFlags ≤ 24 := by
  rcases marks with ⟨_ | _, _ | _⟩ <;> decide

theorem Cell.toNat_flag (c : Cell) : c.flag.toNat = 2 ^ (3 + c.index) := by
  cases c <;> rfl

theorem eq_of_toNat_eq {a b : Bool} (same : a.toNat = b.toNat) : a = b := by
  cases a <;> cases b <;> first | rfl | contradiction

/-! ## Masks -/

theorem and_disjoint_and_not (x mask : UInt64) :
    (x &&& mask).toBitVec &&& (x &&& ~~~mask).toBitVec = 0#64 := by
  ext i
  simp only [UInt64.toBitVec_and, UInt64.toBitVec_not, BitVec.getElem_and, BitVec.getElem_not,
    BitVec.getElem_zero]
  cases x.toBitVec[i] <;> cases mask.toBitVec[i] <;> rfl

/-- A mask and its complement let through the whole of a number between them. -/
theorem toNat_and_add_and_not (x mask : UInt64) :
    (x &&& mask).toNat + (x &&& ~~~mask).toNat = x.toNat := by
  have joined : (x &&& mask) ||| (x &&& ~~~mask) = x := by
    apply UInt64.toBitVec_inj.mp
    ext i
    simp only [UInt64.toBitVec_or, UInt64.toBitVec_and, UInt64.toBitVec_not, BitVec.getElem_or,
      BitVec.getElem_and, BitVec.getElem_not]
    cases x.toBitVec[i] <;> cases mask.toBitVec[i] <;> rfl
  have disjoint := and_disjoint_and_not x mask
  calc
    (x &&& mask).toNat + (x &&& ~~~mask).toNat
        = ((x &&& mask).toBitVec + (x &&& ~~~mask).toBitVec).toNat := by
      rw [BitVec.toNat_add_of_and_eq_zero disjoint, UInt64.toNat_toBitVec, UInt64.toNat_toBitVec]
    _ = x.toNat := by
      rw [BitVec.add_eq_or_of_and_eq_zero _ _ disjoint, ← UInt64.toBitVec_or, joined,
        UInt64.toNat_toBitVec]

theorem toNat_xor_one (x : UInt64) :
    (x ^^^ 1).toNat = if x.toNat % 2 = 0 then x.toNat + 1 else x.toNat - 1 := by
  rw [UInt64.toNat_xor]
  split
  · next even => exact Nat.xor_one_of_even (Nat.even_iff.mpr even)
  · next odd => exact Nat.xor_one_of_odd (Nat.odd_iff.mpr (by omega))

namespace Word

/-! ## Reading the fields -/

/-- The bits above the fields, as a number. -/
def spare (w : Word) : Nat :=
  w.bits.toNat / 32

/-- The fields of a word. -/
def fields (w : Word) : Fields :=
  ⟨w.back, w.openCount, ⟨w.isFresh .first, w.isFresh .second⟩, w.spare⟩

@[simp]
theorem back_fields (w : Word) : w.fields.back = w.back := rfl

@[simp]
theorem front_fields (w : Word) : w.fields.front = w.front := rfl

@[simp]
theorem openCount_fields (w : Word) : w.fields.openCount = w.openCount := rfl

@[simp]
theorem fresh_fields (w : Word) (c : Cell) : w.fields.fresh.get c = w.isFresh c := by
  cases c <;> rfl

@[simp]
theorem spare_fields (w : Word) : w.fields.spare = w.spare := rfl

theorem index_back (w : Word) : w.back.index = w.bits.toNat % 2 := by
  have low : (w.bits &&& 1).toNat = w.bits.toNat % 2 := by
    rw [UInt64.toNat_and]
    exact Nat.and_one_is_mod _
  unfold back
  split
  · next even =>
    rw [even] at low
    exact low
  · next odd =>
    have nonzero : (w.bits &&& 1).toNat ≠ 0 := fun zero => odd (UInt64.toNat_inj.mp zero)
    simp only [Cell.index]
    omega

theorem openCount_eq (w : Word) : w.openCount = w.bits.toNat / 2 % 4 := by
  have shifted : w.openCount = (w.bits.toNat &&& 6) >>> 1 := by
    simp only [openCount, UInt64.toNat_shiftRight, UInt64.toNat_and]
    rfl
  rw [shifted, Nat.shiftRight_and_distrib, Nat.shiftRight_one]
  exact Nat.and_two_pow_sub_one_eq_mod (w.bits.toNat / 2) 2

theorem openCount_lt (w : Word) : w.openCount < 4 := by
  rw [openCount_eq]
  exact Nat.mod_lt _ (by decide)

theorem toNat_and_flag (w : Word) (c : Cell) :
    (w.bits &&& c.flag).toNat = c.flag.toNat * (w.bits.toNat.testBit (3 + c.index)).toNat := by
  rw [UInt64.toNat_and, Cell.toNat_flag, Nat.and_two_pow, Nat.mul_comm]

theorem isFresh_eq_testBit (w : Word) (c : Cell) :
    w.isFresh c = w.bits.toNat.testBit (3 + c.index) := by
  have masked := w.toNat_and_flag c
  have positive : 0 < c.flag.toNat := by cases c <;> decide
  have fresh_iff : w.isFresh c = true ↔ (w.bits &&& c.flag).toNat ≠ 0 := by
    simp only [isFresh, hasFlag, bne_iff_ne, ne_eq, ← UInt64.toNat_inj]
    rfl
  rw [Bool.eq_iff_iff, fresh_iff, masked]
  cases w.bits.toNat.testBit (3 + c.index)
  · simp
  · simp
    omega

theorem toNat_isFresh_first (w : Word) : (w.isFresh .first).toNat = w.bits.toNat / 8 % 2 := by
  rw [isFresh_eq_testBit, Nat.toNat_testBit]
  rfl

theorem toNat_isFresh_second (w : Word) : (w.isFresh .second).toNat = w.bits.toNat / 16 % 2 := by
  rw [isFresh_eq_testBit, Nat.toNat_testBit]
  rfl

/-! ## Words as sums of fields -/

/-- A word is the sum of its fields. -/
theorem packed_fields (w : Word) : w.fields.packed = w.bits.toNat := by
  have first := w.toNat_isFresh_first
  have second := w.toNat_isFresh_second
  have flag_first : Cell.first.flag.toNat = 8 := rfl
  have flag_second : Cell.second.flag.toNat = 16 := rfl
  simp only [Fields.packed, Cells.packedFlags, back_fields, openCount_fields, fresh_fields,
    spare_fields, index_back, openCount_eq, first, second, flag_first, flag_second, spare]
  omega

/-- A sum whose count of open accesses is within bounds has no other fields. -/
theorem fields_eq_of_packed {w : Word} {f : Fields} (bounded : f.openCount < 4)
    (sum : w.bits.toNat = f.packed) : w.fields = f := by
  obtain ⟨back, openCount, ⟨first, second⟩, spare⟩ := f
  have back_lt := back.index_lt_two
  have first_le := first.toNat_le
  have second_le := second.toNat_le
  have bounded : openCount < 4 := bounded
  have sum : w.bits.toNat =
      back.index + 2 * openCount + (8 * first.toNat + 16 * second.toNat) + 32 * spare := sum
  have same_back : w.back = back := Cell.index_injective (by rw [index_back]; omega)
  have same_count : w.openCount = openCount := by rw [openCount_eq]; omega
  have same_first : w.isFresh .first = first :=
    eq_of_toNat_eq (by rw [toNat_isFresh_first]; omega)
  have same_second : w.isFresh .second = second :=
    eq_of_toNat_eq (by rw [toNat_isFresh_second]; omega)
  have same_spare : w.spare = spare := by rw [Word.spare]; omega
  simp only [fields, same_back, same_count, same_first, same_second, same_spare]

theorem fields_injective : Function.Injective fields := by
  intro v w same
  have bits : v.bits = w.bits := by
    apply UInt64.toNat_inj.mp
    rw [← packed_fields, ← packed_fields, same]
  cases v
  cases w
  exact congrArg Word.mk bits

/-! ## Words derived from this one -/

theorem fields_entered {w : Word} (room : w.openCount < 3) :
    w.entered.fields = w.fields.entered := by
  apply fields_eq_of_packed
  · exact Nat.succ_lt_succ room
  · have sum := w.packed_fields
    have bound := w.bits.toNat_lt
    have count := w.openCount_eq
    simp only [Fields.packed, Fields.entered, openCount_fields] at sum ⊢
    simp only [entered, oneAccess, UInt64.toNat_add, UInt64.reduceToNat]
    omega

theorem fields_turned (w : Word) : w.turned.fields = w.fields.turned := by
  apply fields_eq_of_packed w.openCount_lt
  have sum := w.packed_fields
  have flipped : w.turned.bits.toNat + w.back.index = w.bits.toNat + w.front.index := by
    have parity := w.index_back
    simp only [turned, toNat_xor_one, front]
    cases side : w.back <;> simp only [side, Cell.index, Cell.other] at parity ⊢ <;> split <;> omega
  simp only [Fields.packed, Fields.turned, back_fields, front_fields] at sum ⊢
  omega

theorem fields_presented (w : Word) : w.presented.fields = w.fields.presented := by
  apply fields_eq_of_packed w.openCount_lt
  have sum := w.turned.packed_fields
  have split := toNat_and_add_and_not w.turned.bits w.front.flag
  have masked := w.turned.toNat_and_flag w.front
  have cleared := w.fields.fresh.packedFlags_set false w.front
  rw [← isFresh_eq_testBit, ← fresh_fields] at masked
  rw [fields_turned] at sum masked
  simp only [Fields.packed, Fields.turned, Fields.presented, front_fields, Bool.toNat_false,
    Nat.mul_zero, Nat.add_zero, presented] at sum masked cleared ⊢
  omega

theorem fields_vacated (w : Word) : w.vacated.fields = w.fields.vacated := by
  apply fields_eq_of_packed (by decide : 0 < 4)
  have sum := w.packed_fields
  have split := toNat_and_add_and_not w.bits 6
  have even : (w.bits &&& 6).toNat % 2 = 0 := by
    rw [UInt64.toNat_and]
    exact (Nat.and_mod_two_pow (n := 1)).trans (Nat.and_zero _)
  have count : w.openCount = (w.bits &&& 6).toNat / 2 := by
    rw [openCount, UInt64.toNat_shiftRight]
    rfl
  simp only [Fields.packed, Fields.vacated, openCount_fields, vacated] at sum ⊢
  omega

theorem openCount_atRest (w : Word) : w.atRest.openCount = 0 := by
  have idle : w.vacated.openCount = 0 := congrArg Fields.openCount w.fields_vacated
  simp only [atRest]
  split
  · exact (congrArg Fields.openCount w.vacated.fields_turned).trans idle
  · exact idle

/-- The addend that publishes depends on the back cell and its flag alone. -/
theorem publishAddend_fields (w : Word) : w.fields.publishAddend = w.publishAddend := by
  have split := toNat_and_add_and_not w.back.flag w.bits
  have masked := w.toNat_and_flag w.back
  rw [← isFresh_eq_testBit, UInt64.and_comm] at masked
  rw [Fields.publishAddend, publishAddend, fresh_fields, back_fields]
  congr 1
  apply UInt64.toNat_inj.mp
  cases fresh : w.isFresh w.back
  · rw [fresh, Bool.toNat_false, Nat.mul_zero] at masked
    rw [masked, Nat.zero_add] at split
    exact split.symm
  · rw [fresh, Bool.toNat_true, Nat.mul_one] at masked
    rw [masked] at split
    exact (Nat.add_left_cancel (split.trans (Nat.add_zero _).symm)).symm

/-! ## Accesses -/

theorem enterWrite_eq {w : Word} (room : w.openCount < 2) :
    w.enterWrite = (w.entered, .ok w.back) := by
  rw [enterWrite, if_pos room]

theorem enterRead_eq {w : Word} (room : w.openCount < 2) (ready : w.isReady) :
    w.enterRead = (w.entered, .ok w.front) := by
  have effect := fields_entered (w := w) (by omega)
  have count : w.entered.openCount = w.openCount + 1 := congrArg Fields.openCount effect
  have front : w.entered.front = w.front := congrArg Fields.front effect
  have ready : w.entered.isReady = true := by
    have kept : w.entered.fields.fresh.get w.front = w.fields.fresh.get w.front := by
      rw [effect]
      rfl
    rw [fresh_fields, fresh_fields] at kept
    rw [isReady, front, kept]
    exact ready
  have room : ¬ 2 < w.entered.openCount := by omega
  simp only [enterRead, if_neg room, if_pos ready, front]

theorem fields_publish {w : Word} (busy : 0 < w.openCount) :
    (w.publish w.publishAddend).1.fields = w.fields.published := by
  apply fields_eq_of_packed (Nat.lt_of_le_of_lt (Nat.sub_le _ _) w.openCount_lt)
  have sum := w.packed_fields
  have marked := w.fields.fresh.packedFlags_set true w.back
  have marked_le := (w.fields.fresh.set true w.back).packedFlags_le
  have flag_le : w.back.flag.toNat ≤ 16 := by cases w.back <;> decide
  have bound := w.bits.toNat_lt
  have index_lt := w.back.index_lt_two
  have count_lt := w.openCount_lt
  simp only [Fields.packed, Fields.published, back_fields, openCount_fields, fresh_fields,
    spare_fields, Bool.toNat_true, Nat.mul_one] at sum marked ⊢
  simp only [publish, ← publishAddend_fields, Fields.publishAddend, fresh_fields, back_fields,
    oneAccess, UInt64.toNat_add, UInt64.toNat_sub, UInt64.reduceToNat]
  cases fresh : w.isFresh w.back
  · simp only [fresh, Bool.toNat_false, Bool.false_eq_true, if_false] at marked ⊢
    omega
  · simp only [fresh, Bool.toNat_true, if_true, UInt64.reduceToNat] at marked ⊢
    omega

theorem isFresh_of_published {left : Word} {f : Fields} (effect : left.fields = f.published) :
    left.isFresh left.back = true := by
  rw [← fresh_fields, ← back_fields, effect]
  exact Fields.get_fresh_published

/-- A write access that is open can be closed. -/
theorem publish_eq {w : Word} (busy : 0 < w.openCount) :
    ∃ left : Word, left.fields = w.fields.published ∧
      w.publish w.publishAddend = (left, .ok left.owedByProducer) := by
  have effect := fields_publish busy
  refine ⟨(w.publish w.publishAddend).1, effect, ?_⟩
  generalize same : (w.publish w.publishAddend).1 = left at effect
  have whole : w.publish w.publishAddend =
      (left, if left.isFresh left.back then .ok left.owedByProducer else .error .unpublished) := by
    rw [← same]
    rfl
  rw [whole, if_pos (isFresh_of_published effect)]

theorem fields_release {w : Word} {c : Cell} (busy : 0 < w.openCount) (fresh : w.isFresh c) :
    (w.release c.flag).1.fields = w.fields.released c := by
  apply fields_eq_of_packed (Nat.lt_of_le_of_lt (Nat.sub_le _ _) w.openCount_lt)
  have sum := w.packed_fields
  have cleared := w.fields.fresh.packedFlags_set false c
  have taken : (c.flag ||| oneAccess).toNat = c.flag.toNat + 2 := by cases c <;> rfl
  have bound := w.bits.toNat_lt
  rw [fresh_fields, fresh] at cleared
  simp only [Fields.packed, Fields.released, openCount_fields, Bool.toNat_true, Nat.mul_one,
    Bool.toNat_false, Nat.mul_zero, Nat.add_zero] at sum cleared ⊢
  simp only [release, UInt64.toNat_sub, taken]
  omega

theorem isFresh_of_released {left : Word} {f : Fields} (effect : left.fields = f.released f.front) :
    left.isFresh left.front = false := by
  rw [← fresh_fields, ← front_fields, effect]
  exact Fields.get_fresh_released _

/-- A read access that is open to a fresh cell can be closed. -/
theorem release_eq {w : Word} {c : Cell} (busy : 0 < w.openCount) (fresh : w.isFresh c) :
    ∃ left : Word, left.fields = w.fields.released c ∧
      w.release c.flag = (left, .ok left.owedByConsumer) := by
  refine ⟨(w.release c.flag).1, fields_release busy fresh, ?_⟩
  have lawful : w.hasFlag c.flag = true ∧ 0 < w.openCount := ⟨fresh, busy⟩
  simp only [release, if_pos lawful]

end Word

end Handover
