import Handover.Proofs.Session.Publications

/-!
# What the cells contain

A cell contains what was last published in it, unless a store was made there since.  As long as the
cell is fresh, such a store was made through an access that is still open, or through one that was
cut short: a write access that is closed publishes anew what it left, and a read access that is
closed leaves nothing fresh.
-/

namespace Handover.Journal

variable {α : Type} {j : Journal α}

/-- After a publication, something else was left in its cell. -/
def Altered (j : Journal α) (p : Publication α) : Prop :=
  ∃ t ∈ j.stores, t.cell = p.cell ∧ p.closed < t.time ∧ t.Alters

/-- The access through which a store was made was cut short. -/
def WasCut (j : Journal α) (t : Store α) : Prop :=
  match t.side with
  | .producer => t.toAccess ∈ j.cutWrites
  | .consumer => ∃ r ∈ j.cutReads, r.toAccess = t.toAccess

/-! ## Values -/

/-- A cell contains what was last published in it, unless it was altered since. -/
def Stored (j : Journal α) (b : Buffer α) : Prop :=
  ∀ c p, j.newestIn? c = some p → ¬ j.Altered p → b.load c = p.value

namespace Stored

variable {b after : Buffer α}

theorem same {later : Journal α} (stored : j.Stored b) (cells : after.cells = b.cells)
    (found : ∀ c, later.newestIn? c = j.newestIn? c) (stores : later.stores = j.stores) :
    later.Stored after := by
  intro c p newest unaltered
  rw [found] at newest
  rw [Altered, stores] at unaltered
  rw [Buffer.load, cells]
  exact stored c p newest unaltered

theorem store {side : Race.Side} {access : Access} {effect : α → α} (stored : j.Stored b)
    (ordered : j.Ordered) (opened : j.access? side = some access)
    (cells : after.cells = b.cells.set (effect (b.load access.cell)) access.cell) :
    (j.note (.store side effect)).Stored after := by
  rw [note_store opened]
  intro c p newest unaltered
  have newest : j.newestIn? c = some p := newest
  have before : ¬ j.Altered p := by
    rintro ⟨t, among, here⟩
    exact unaltered ⟨t, List.mem_cons_of_mem _ among, here⟩
  rw [← stored c p newest before, Buffer.load, cells]
  by_cases place : c = access.cell
  · have harmless : effect (b.load c) = b.load c := by
      by_contra alters
      have time : p.closed < j.clock := ordered.closed p (newestIn?_mem newest)
      exact unaltered ⟨_, List.mem_cons_self,
        place.symm.trans (cell_newestIn? newest).symm, time, _, alters⟩
    rw [← place, Cells.get_set_self, harmless]
  · rw [Cells.get_set_of_ne _ _ place]
    rfl

theorem closeWrite {access : Access} (stored : j.Stored b) (opened : j.writing = some access)
    (cells : after.cells = b.cells) :
    (j.note (.closeWrite (b.load access.cell))).Stored after := by
  intro c p newest unaltered
  rw [Buffer.load, cells]
  by_cases place : c = access.cell
  · rw [place, newestIn?_publish_self opened] at newest
    cases newest
    rw [place]
    rfl
  · rw [newestIn?_publish_of_ne opened place] at newest
    refine stored c p newest ?_
    rwa [Altered, note_closeWrite opened] at unaltered

/-- Every turn keeps the values that were not altered. -/
theorem turn {act : Act α} (stored : j.Stored b) (ordered : j.Ordered)
    (turn : Turn j b after act) : (j.note act).Stored after := by
  cases turn with
  | openWrite place closed word cells => exact stored.same cells (fun _ => rfl) rfl
  | openRead place closed ready word cells => exact stored.same cells (fun _ => rfl) rfl
  | store opened word cells => exact stored.store ordered opened cells
  | closeWrite opened content word cells =>
      cases content
      exact stored.closeWrite opened cells
  | closeRead opened word cells =>
      rw [note_closeRead opened]
      exact stored.same cells (fun _ => rfl) rfl
  | connect word cells => exact stored.same cells (fun _ => rfl) rfl

end Stored

/-! ## Stores -/

/-- A store into a fresh cell since its last publication was made through an access that is open, or
that was cut short. -/
def Traced (j : Journal α) (f : Fields) : Prop :=
  ∀ c p, f.fresh.get c = true → j.newestIn? c = some p → ∀ t ∈ j.stores, t.cell = c →
    p.closed < t.time → j.access? t.side = some t.toAccess ∨ j.WasCut t

namespace Traced

variable {b after : Buffer α}

theorem openWrite {c : Cell} (traced : j.Traced b.word.fields) (closed : j.writing = none)
    (word : after.word.fields = b.word.fields.entered) :
    (j.note (.openWrite c)).Traced after.word.fields := by
  rw [word]
  intro d p marked newest t among here since
  refine (traced d p marked newest t among here since).imp_left fun opened => ?_
  cases side : t.side with
  | producer =>
      rw [side] at opened
      exact nomatch closed.symm.trans opened
  | consumer =>
      rw [side] at opened
      exact opened

theorem openRead {c : Cell} (traced : j.Traced b.word.fields) (closed : j.reading = none)
    (word : after.word.fields = b.word.fields.entered) :
    (j.note (.openRead c)).Traced after.word.fields := by
  rw [word]
  intro d p marked newest t among here since
  refine (traced d p marked newest t among here since).imp_left fun opened => ?_
  cases side : t.side with
  | producer =>
      rw [side] at opened
      exact opened
  | consumer =>
      rw [side, access?, closed] at opened
      cases opened

theorem store {side : Race.Side} {access : Access} {effect : α → α}
    (traced : j.Traced b.word.fields) (opened : j.access? side = some access)
    (word : after.word = b.word) : (j.note (.store side effect)).Traced after.word.fields := by
  rw [note_store opened, word]
  intro c p marked newest t among here since
  rcases List.mem_cons.mp among with rfl | among
  · exact .inl opened
  · exact traced c p marked newest t among here since

theorem closeWrite {value : α} {access : Access} (traced : j.Traced b.word.fields)
    (ordered : j.Ordered) (coherent : j.Coherent b.word.fields) (opened : j.writing = some access)
    (word : after.word.fields = b.word.fields.writeClosed) :
    (j.note (.closeWrite value)).Traced after.word.fields := by
  rw [word]
  intro c p marked newest t among here since
  have among : t ∈ j.stores := by rwa [note_closeWrite opened] at among
  by_cases place : c = access.cell
  · -- What was stored before is part of the new publication.
    rw [place, newestIn?_publish_self opened] at newest
    cases newest
    exact absurd since (Nat.lt_asymm (ordered.stores t among))
  · rw [newestIn?_publish_of_ne opened place] at newest
    have fresh := Fields.fresh_of_writeClosed (coherent.writer _ opened ▸ place) marked
    rw [note_closeWrite opened]
    refine (traced c p fresh newest t among here since).imp_left fun found => ?_
    cases side : t.side with
    | producer =>
        rw [side] at found
        have same : access = t.toAccess := Option.some.inj (opened.symm.trans found)
        exact absurd (here.symm.trans (congrArg Access.cell same).symm) place
    | consumer =>
        rw [side] at found
        exact found

theorem closeRead {access : ReadAccess} (traced : j.Traced b.word.fields)
    (opened : j.reading = some access)
    (word : after.word.fields = b.word.fields.readClosed access.cell) :
    (j.note .closeRead).Traced after.word.fields := by
  rw [word, note_closeRead opened]
  intro c p marked newest t among here since
  rw [Fields.fresh_readClosed] at marked
  have place : c ≠ access.cell := by
    rintro rfl
    rw [Cells.get_set_self] at marked
    cases marked
  rw [Cells.get_set_of_ne _ _ place] at marked
  refine (traced c p marked newest t among here since).imp_left fun found => ?_
  cases side : t.side with
  | producer =>
      rw [side] at found
      exact found
  | consumer =>
      rw [side, access?, opened] at found
      have same : access.toAccess = t.toAccess := Option.some.inj found
      exact absurd (here.symm.trans (congrArg Access.cell same).symm) place

theorem connect (traced : j.Traced b.word.fields)
    (word : after.word.fields = b.word.fields.atRest) :
    (j.note .connect).Traced after.word.fields := by
  rw [word]
  intro c p marked newest t among here since
  rw [Fields.fresh_atRest] at marked
  have found := traced c p marked newest t among here since
  refine .inr ?_
  unfold WasCut at found ⊢
  cases side : t.side with
  | producer =>
      rw [side] at found
      exact List.mem_append.mpr (found.imp_left fun opened => Option.mem_toList.mpr opened)
  | consumer =>
      rw [side] at found
      rcases found with opened | ⟨r, cut, same⟩
      · obtain ⟨a, reading, same⟩ := Option.map_eq_some_iff.mp opened
        refine ⟨⟨a, j.clock⟩, List.mem_append_left _ ?_, same⟩
        exact List.mem_map_of_mem (Option.mem_toList.mpr reading)
      · exact ⟨r, List.mem_append_right _ cut, same⟩

/-- A store into the front cell since its publication is the consumer's own, or was made through an
access that was cut short. -/
theorem front {f : Fields} (traced : j.Traced f) (coherent : j.Coherent f)
    (fresh : f.fresh.get f.front = true) {p : Publication α}
    (newest : j.newestIn? f.front = some p) {t : Store α} (among : t ∈ j.stores)
    (here : t.cell = f.front) (since : p.closed < t.time) :
    (t.side = .consumer ∧ j.access? .consumer = some t.toAccess) ∨ j.WasCut t := by
  refine (traced _ p fresh newest t among here since).imp_left fun opened => ?_
  cases side : t.side with
  | producer =>
      rw [side] at opened
      exact absurd (here.symm.trans (coherent.writer _ opened)) Fields.front_ne_back
  | consumer =>
      rw [side] at opened
      exact ⟨rfl, opened⟩

/-- Every turn keeps the stores traced. -/
theorem turn {act : Act α} (traced : j.Traced b.word.fields) (ordered : j.Ordered)
    (coherent : j.Coherent b.word.fields) (turn : Turn j b after act) :
    (j.note act).Traced after.word.fields := by
  cases turn with
  | openWrite place closed word cells => exact traced.openWrite closed word
  | openRead place closed ready word cells => exact traced.openRead closed word
  | store opened word cells => exact traced.store opened word
  | closeWrite opened content word cells => exact traced.closeWrite ordered coherent opened word
  | closeRead opened word cells => exact traced.closeRead opened word
  | connect word cells => exact traced.connect word

end Traced

end Handover.Journal
