import Handover.Proofs.Session.Turns

/-!
# Publications and flags

A journal numbers the publications of a session.  `Tally` reads off the flags of the word which of
them are still to be had: the newest publication is the one in a fresh back cell, or else the one in
a fresh front cell, or else the one that was read last.  This holds over all the handles that were
given out, since giving out new ones changes no flag.
-/

namespace Handover.Journal

variable {α : Type} {j : Journal α}

/-! ## Order of a journal -/

/-- All entries lie in the past, the newest publication has the highest number, and an access that
was open while a publication was made was given to an earlier one. -/
structure Ordered (j : Journal α) : Prop where
  writing : ∀ a, j.writing = some a → a.opened < j.clock
  reading : ∀ a, j.reading = some a → a.opened < j.clock
  closed : ∀ p ∈ j.published, p.closed < j.clock
  sorted : j.published.Pairwise fun later p => p.closed < later.closed
  number : ∀ p ∈ j.published, p.number ≤ j.count
  reads : ∀ r ∈ j.reads, r.closed < j.clock
  stores : ∀ t ∈ j.stores, t.time < j.clock
  newest : ∀ p, j.newest? = some p → p.number = j.count
  given : ∀ a, j.reading = some a → a.number ≤ j.count
  cut : ∀ r ∈ j.cutReads, r.number ≤ j.count
  earlier : ∀ a, j.reading = some a → ∀ p ∈ j.published, a.opened < p.closed → a.number < p.number
  cut_earlier : ∀ r ∈ j.cutReads, ∀ p ∈ j.published, r.opened < p.closed → r.number < p.number

theorem newestIn?_mem {c : Cell} {p : Publication α} (found : j.newestIn? c = some p) :
    p ∈ j.published :=
  List.mem_of_find?_eq_some found

theorem cell_newestIn? {c : Cell} {p : Publication α} (found : j.newestIn? c = some p) :
    p.cell = c := by
  simpa using List.find?_some found

theorem newest?_mem {p : Publication α} (found : j.newest? = some p) : p ∈ j.published :=
  List.mem_of_mem_head? found

theorem latest_eq {c : Cell} {p : Publication α} (found : j.newestIn? c = some p) :
    j.latest c = p.number := by
  rw [latest, found, Option.elim_some]

theorem exists_newestIn? {c : Cell} (positive : 0 < j.latest c) :
    ∃ p, j.newestIn? c = some p := by
  cases found : j.newestIn? c with
  | none => simp [latest, found] at positive
  | some p => exact ⟨p, rfl⟩

theorem Ordered.latest_le (ordered : j.Ordered) (c : Cell) : j.latest c ≤ j.count := by
  cases found : j.newestIn? c with
  | none => simp [latest, found]
  | some p => exact latest_eq found ▸ ordered.number p (newestIn?_mem found)

/-- The newest publication of a cell is the newest of all if its number is the highest. -/
theorem latest_eq_count (ordered : j.Ordered) {c : Cell} (same : j.newestIn? c = j.newest?) :
    j.latest c = j.count := by
  cases found : j.newest? with
  | none =>
      have nothing : j.published = [] := List.head?_eq_none_iff.mp found
      rw [latest, same, found, count, nothing]
      rfl
  | some p => rw [latest_eq (same.trans found), ordered.newest p found]

/-- The newest publication of a cell is the last that was made there. -/
theorem Ordered.closed_le (ordered : j.Ordered) {c : Cell} {p e : Publication α}
    (newest : j.newestIn? c = some p) (among : e ∈ j.published) (here : e.cell = c) :
    e.closed ≤ p.closed := by
  obtain ⟨-, later, rest, split, elsewhere⟩ := List.find?_eq_some_iff_append.mp newest
  have sorted := ordered.sorted
  rw [split] at among sorted
  rcases List.mem_append.mp among with among | among
  · simpa [here] using elsewhere e among
  · rcases List.mem_cons.mp among with rfl | among
    · exact Nat.le_refl _
    · have tail := (List.pairwise_append.mp sorted).2.1
      exact Nat.le_of_lt ((List.pairwise_cons.mp tail).1 e among)

theorem ordered_empty : (empty : Journal α).Ordered := by
  constructor
  case sorted => exact .nil
  all_goals nofun

/-- Time goes on. -/
theorem Ordered.tick (ordered : j.Ordered) : { j with clock := j.clock + 1 }.Ordered where
  writing a opened := Nat.lt_succ_of_lt (ordered.writing a opened)
  reading a opened := Nat.lt_succ_of_lt (ordered.reading a opened)
  closed p among := Nat.lt_succ_of_lt (ordered.closed p among)
  sorted := ordered.sorted
  number := ordered.number
  reads r among := Nat.lt_succ_of_lt (ordered.reads r among)
  stores t among := Nat.lt_succ_of_lt (ordered.stores t among)
  newest := ordered.newest
  given := ordered.given
  cut := ordered.cut
  earlier := ordered.earlier
  cut_earlier := ordered.cut_earlier

theorem Ordered.openRead (ordered : j.Ordered) (c : Cell) : (j.note (.openRead c)).Ordered := by
  refine { ordered.tick with reading := ?_, given := ?_, earlier := ?_ }
  · rintro a ⟨⟩
    exact Nat.lt_succ_self _
  · rintro a ⟨⟩
    exact ordered.latest_le c
  · rintro a ⟨⟩ p among during
    exact absurd during (Nat.lt_asymm (ordered.closed p among))

theorem Ordered.store {side : Race.Side} {access : Access} (ordered : j.Ordered)
    (opened : j.access? side = some access) (effect : α → α) :
    (j.note (.store side effect)).Ordered := by
  rw [note_store opened]
  refine { ordered.tick with stores := ?_ }
  intro t among
  rcases List.mem_cons.mp among with rfl | among
  · exact Nat.lt_succ_self _
  · exact ordered.tick.stores t among

theorem Ordered.closeWrite {access : Access} (ordered : j.Ordered)
    (opened : j.writing = some access) (value : α) : (j.note (.closeWrite value)).Ordered := by
  rw [note_closeWrite opened]
  refine { ordered.tick with
    writing := nofun, closed := ?_
    sorted := List.pairwise_cons.mpr ⟨ordered.closed, ordered.sorted⟩
    number := ?_, newest := ?_, given := ?_, cut := ?_, earlier := ?_, cut_earlier := ?_ }
  · intro p among
    rcases List.mem_cons.mp among with rfl | among
    · exact Nat.lt_succ_self _
    · exact ordered.tick.closed p among
  · intro p among
    rcases List.mem_cons.mp among with rfl | among
    · exact Nat.le_refl _
    · exact Nat.le_succ_of_le (ordered.number p among)
  · rintro p ⟨⟩
    rfl
  · intro a reading
    exact Nat.le_succ_of_le (ordered.given a reading)
  · intro r among
    exact Nat.le_succ_of_le (ordered.cut r among)
  · intro a reading p among during
    rcases List.mem_cons.mp among with rfl | among
    · exact Nat.lt_succ_of_le (ordered.given a reading)
    · exact ordered.earlier a reading p among during
  · intro r cut p among during
    rcases List.mem_cons.mp among with rfl | among
    · exact Nat.lt_succ_of_le (ordered.cut r cut)
    · exact ordered.cut_earlier r cut p among during

theorem Ordered.closeRead {access : ReadAccess} (ordered : j.Ordered)
    (opened : j.reading = some access) : (j.note .closeRead).Ordered := by
  rw [note_closeRead opened]
  refine { ordered.tick with reading := nofun, reads := ?_, given := nofun, earlier := nofun }
  intro r among
  rcases List.mem_cons.mp among with rfl | among
  · exact Nat.lt_succ_self _
  · exact ordered.tick.reads r among

/-- An access that is cut short was given to an earlier publication than those made meanwhile. -/
theorem Ordered.connect (ordered : j.Ordered) : (j.note .connect).Ordered := by
  refine { ordered.tick with
    writing := nofun, reading := nofun, given := nofun, cut := ?_, earlier := nofun
    cut_earlier := ?_ }
  · intro r among
    rcases List.mem_append.mp among with among | among
    · obtain ⟨a, opened, rfl⟩ := List.mem_map.mp among
      exact ordered.given a (Option.mem_toList.mp opened)
    · exact ordered.cut r among
  · intro r among
    rcases List.mem_append.mp among with among | among
    · obtain ⟨a, opened, rfl⟩ := List.mem_map.mp among
      exact ordered.earlier a (Option.mem_toList.mp opened)
    · exact ordered.cut_earlier r among

/-- Every turn keeps a journal in order. -/
theorem Ordered.turn {b after : Buffer α} {act : Act α} (ordered : j.Ordered)
    (turn : Turn j b after act) : (j.note act).Ordered := by
  cases turn with
  | openWrite place closed word cells =>
      refine { ordered.tick with writing := ?_ }
      rintro a ⟨⟩
      exact Nat.lt_succ_self _
  | openRead place closed ready word cells => exact ordered.openRead _
  | store opened word cells => exact ordered.store opened _
  | closeWrite opened content word cells => exact ordered.closeWrite opened _
  | closeRead opened word cells => exact ordered.closeRead opened
  | connect word cells => exact ordered.connect

/-! ## Numbers and flags -/

/-- How the publications stand with the flags of the word. -/
structure Tally (j : Journal α) (f : Fields) : Prop where
  /-- A fresh back cell holds the newest publication. -/
  back : f.fresh.get f.back = true → j.newestIn? f.back = j.newest?
  /-- So does a fresh front cell if nothing was published since. -/
  front : f.fresh.get f.back = false → f.fresh.get f.front = true → j.newestIn? f.front = j.newest?
  superseded : f.fresh.get f.back = true → f.fresh.get f.front = true → j.latest f.front < j.count
  /-- With nothing fresh, the newest publication was the last to be read. -/
  drained : f.fresh.get f.back = false → f.fresh.get f.front = false → j.lastRead = j.count
  unread : ∀ c, f.fresh.get c = true → j.lastRead < j.latest c
  held : ∀ a, j.reading = some a → a.number = j.latest a.cell
  lastRead_le : j.lastRead ≤ j.count
  reads_le : ∀ r ∈ j.reads, r.number ≤ j.lastRead

section

variable {f : Fields} {access : Access} {c : Cell} {value : α}

theorem newestIn?_publish_self (opened : j.writing = some access) :
    (j.note (.closeWrite value)).newestIn? access.cell =
      some ⟨access, j.clock, j.count + 1, value⟩ := by
  rw [note_closeWrite opened]
  exact List.find?_cons_of_pos (decide_eq_true rfl)

theorem newestIn?_publish_of_ne (opened : j.writing = some access) (other : c ≠ access.cell) :
    (j.note (.closeWrite value)).newestIn? c = j.newestIn? c := by
  rw [note_closeWrite opened]
  exact List.find?_cons_of_neg (by simpa using other.symm)

theorem newest?_publish (opened : j.writing = some access) :
    (j.note (.closeWrite value)).newest? = some ⟨access, j.clock, j.count + 1, value⟩ := by
  rw [note_closeWrite opened]
  rfl

theorem count_publish (opened : j.writing = some access) :
    (j.note (.closeWrite value)).count = j.count + 1 := by
  rw [note_closeWrite opened]
  rfl

theorem lastRead_publish (opened : j.writing = some access) :
    (j.note (.closeWrite value)).lastRead = j.lastRead := by
  rw [note_closeWrite opened]
  rfl

theorem reading_publish (opened : j.writing = some access) :
    (j.note (.closeWrite value)).reading = j.reading := by
  rw [note_closeWrite opened]

namespace Tally

theorem empty (quiet : ∀ c, f.fresh.get c = false) : (Journal.empty : Journal α).Tally f where
  back _ := rfl
  front _ _ := rfl
  superseded fresh := absurd fresh (by simp [quiet])
  drained _ _ := rfl
  unread c fresh := absurd fresh (by simp [quiet])
  held := nofun
  lastRead_le := Nat.le_refl _
  reads_le := nofun

/-- A publication takes the next number, and is not read yet. -/
theorem publish (tally : j.Tally f) (ordered : j.Ordered) (opened : j.writing = some access)
    (place : access.cell = f.back) (apart : ∀ a, j.reading = some a → a.cell = f.front) :
    (j.note (.closeWrite value)).Tally f.published := by
  have marked : f.published.fresh.get f.back = true := Fields.get_fresh_published
  have here : (j.note (.closeWrite value)).newestIn? f.back =
      (j.note (.closeWrite value)).newest? := by
    rw [newest?_publish opened, ← place]
    exact newestIn?_publish_self opened
  have number : (j.note (.closeWrite value)).latest f.back = j.count + 1 :=
    latest_eq (here.trans (newest?_publish opened))
  have kept {c : Cell} (other : c ≠ f.back) :
      (j.note (.closeWrite value)).latest c = j.latest c := by
    rw [latest, newestIn?_publish_of_ne opened (place ▸ other)]
    rfl
  constructor
  · intro _
    exact here
  · intro quiet
    exact absurd (quiet.symm.trans marked) Bool.false_ne_true
  · intro _ _
    rw [count_publish opened]
    exact Nat.lt_succ_of_le ((kept Fields.front_ne_back).trans_le (ordered.latest_le _))
  · intro quiet
    exact absurd (quiet.symm.trans marked) Bool.false_ne_true
  · intro c fresh
    rw [lastRead_publish opened]
    by_cases same : c = f.back
    · rw [same, number]
      exact Nat.lt_succ_of_le tally.lastRead_le
    · rw [Fields.get_fresh_published_of_ne same] at fresh
      rw [kept same]
      exact tally.unread c fresh
  · intro a reading
    rw [reading_publish opened] at reading
    rw [kept (apart a reading ▸ Fields.front_ne_back)]
    exact tally.held a reading
  · rw [lastRead_publish opened, count_publish opened]
    exact Nat.le_succ_of_le tally.lastRead_le
  · rw [lastRead_publish opened, note_closeWrite opened]
    exact tally.reads_le

/-- Bringing the newest publication to the front gives up what it supersedes there. -/
theorem presented (tally : j.Tally f) (fresh : f.fresh.get f.back = true) :
    j.Tally f.presented := by
  have cleared : f.presented.fresh.get f.presented.back = false := Fields.get_fresh_presented
  constructor
  · intro marked
    exact absurd (cleared.symm.trans marked) Bool.false_ne_true
  · intro _ _
    rw [Fields.front_presented]
    exact tally.back fresh
  · intro marked
    exact absurd (cleared.symm.trans marked) Bool.false_ne_true
  · intro _ quiet
    rw [Fields.front_presented, Fields.get_fresh_presented_of_ne Fields.front_ne_back.symm,
      fresh] at quiet
    cases quiet
  · intro c marked
    by_cases same : c = f.front
    · rw [same] at marked
      exact absurd (cleared.symm.trans marked) Bool.false_ne_true
    · rw [Fields.get_fresh_presented_of_ne same] at marked
      exact tally.unread c marked
  · exact tally.held
  · exact tally.lastRead_le
  · exact tally.reads_le

theorem turned (tally : j.Tally f) (fresh : f.fresh.get f.back = true)
    (drained : f.fresh.get f.front = false) : j.Tally f.turned := by
  rw [Fields.turned_eq_presented drained]
  exact tally.presented fresh

theorem closeWrite (tally : j.Tally f) (ordered : j.Ordered) (coherent : j.Coherent f)
    (opened : j.writing = some access) : (j.note (.closeWrite value)).Tally f.writeClosed := by
  have published : (j.note (.closeWrite value)).Tally f.published :=
    tally.publish ordered opened (coherent.writer _ opened) fun a reading =>
      (coherent.reader a reading).1
  unfold Fields.writeClosed
  split
  · exact published.presented Fields.get_fresh_published
  · exact published

/-- A publication that was read is not to be had any more. -/
theorem release {access : ReadAccess} (tally : j.Tally f) (ordered : j.Ordered)
    (opened : j.reading = some access) (place : access.cell = f.front)
    (fresh : f.fresh.get f.front = true) : (j.note .closeRead).Tally (f.released f.front) := by
  have cleared : (f.released f.front).fresh.get f.front = false := Fields.get_fresh_released _
  have kept : (f.released f.front).fresh.get f.back = f.fresh.get f.back :=
    Fields.get_fresh_released_of_ne Fields.front_ne_back.symm
  have last : (j.note .closeRead).lastRead = j.latest f.front := by
    rw [← place, ← tally.held access opened, note_closeRead opened]
    rfl
  have latest (c : Cell) : (j.note .closeRead).latest c = j.latest c := by
    rw [note_closeRead opened]
    rfl
  have count : (j.note .closeRead).count = j.count := by
    rw [note_closeRead opened]
    rfl
  constructor
  · intro marked
    rw [note_closeRead opened]
    exact tally.back (kept.symm.trans marked)
  · intro _ marked
    exact absurd (cleared.symm.trans marked) Bool.false_ne_true
  · intro _ marked
    exact absurd (cleared.symm.trans marked) Bool.false_ne_true
  · intro quiet _
    rw [last, count]
    exact latest_eq_count ordered (tally.front (kept.symm.trans quiet) fresh)
  · intro c marked
    have other : c ≠ f.front := by
      rintro rfl
      exact absurd (cleared.symm.trans marked) Bool.false_ne_true
    obtain rfl : c = f.back := Fields.eq_back_of_ne_front other
    have behind : f.fresh.get f.back = true := kept.symm.trans marked
    rw [last, latest, latest_eq_count ordered (tally.back behind)]
    exact tally.superseded behind fresh
  · rw [note_closeRead opened]
    nofun
  · rw [last, count]
    exact ordered.latest_le _
  · intro r among
    rw [note_closeRead opened] at among
    rw [last]
    rcases List.mem_cons.mp among with rfl | among
    · exact Nat.le_of_eq ((tally.held access opened).trans (congrArg j.latest place))
    · exact Nat.le_of_lt (Nat.lt_of_le_of_lt (tally.reads_le r among) (tally.unread _ fresh))

theorem closeRead {access : ReadAccess} (tally : j.Tally f) (ordered : j.Ordered)
    (coherent : j.Coherent f) (opened : j.reading = some access) :
    (j.note .closeRead).Tally (f.readClosed access.cell) := by
  obtain ⟨place, fresh⟩ := coherent.reader _ opened
  have released := tally.release ordered opened place fresh
  rw [place]
  unfold Fields.readClosed
  split
  · next held => exact released.turned held.2 (Fields.get_fresh_released _)
  · exact released

theorem vacated (tally : j.Tally f) : j.Tally f.vacated :=
  ⟨tally.back, tally.front, tally.superseded, tally.drained, tally.unread, tally.held,
    tally.lastRead_le, tally.reads_le⟩

theorem connect (tally : j.Tally f) : (j.note .connect).Tally f.atRest := by
  have rested : j.Tally f.atRest := by
    unfold Fields.atRest
    split
    · next held => exact tally.vacated.turned held.1 held.2
    · exact tally.vacated
  exact ⟨rested.back, rested.front, rested.superseded, rested.drained, rested.unread, nofun,
    rested.lastRead_le, rested.reads_le⟩

/-- Every turn keeps the tally. -/
theorem turn {b after : Buffer α} {act : Act α} (tally : j.Tally b.word.fields)
    (ordered : j.Ordered) (coherent : j.Coherent b.word.fields) (turn : Turn j b after act) :
    (j.note act).Tally after.word.fields := by
  cases turn with
  | openWrite place closed word cells =>
      rw [word]
      exact ⟨tally.back, tally.front, tally.superseded, tally.drained, tally.unread, tally.held,
        tally.lastRead_le, tally.reads_le⟩
  | openRead place closed ready word cells =>
      rw [word]
      refine ⟨tally.back, tally.front, tally.superseded, tally.drained, tally.unread, ?_,
        tally.lastRead_le, tally.reads_le⟩
      rintro a ⟨⟩
      rfl
  | store opened word cells =>
      rw [note_store opened, word]
      exact ⟨tally.back, tally.front, tally.superseded, tally.drained, tally.unread, tally.held,
        tally.lastRead_le, tally.reads_le⟩
  | closeWrite opened content word cells =>
      rw [word]
      exact tally.closeWrite ordered coherent opened
  | closeRead opened word cells =>
      rw [word]
      exact tally.closeRead ordered coherent opened
  | connect word cells =>
      rw [word]
      exact tally.connect

end Tally

end

end Handover.Journal
