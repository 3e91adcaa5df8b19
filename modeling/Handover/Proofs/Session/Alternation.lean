import Handover.Proofs.Session.Crowding

/-!
# Alternating cells

As long as no write access overlaps a read access and none is cut short, every publication is
brought to the front by the producer itself, and a read never turns the cells.  So the producer gets
the two cells by turns, whatever is read in between, and finds in each of them what it published
there the time before last, as the reads of that publication left it.
-/

namespace Handover

variable {α ρ : Type}

theorem Cell.index_other (c : Cell) : c.other.index = (c.index + 1) % 2 := by
  cases c <;> rfl

namespace Journal

variable {j : Journal α}

/-! ## Spans of accesses -/

/-- An access is closed after it was opened, stores are made while it is open, and publications are
counted from one on. -/
structure Timely (j : Journal α) : Prop where
  published : ∀ p ∈ j.published, p.opened < p.closed
  reads : ∀ r ∈ j.reads, r.opened < r.closed
  reading : ∀ a, j.reading = some a → ∀ r ∈ j.reads, r.closed < a.opened
  stores : ∀ t ∈ j.stores, t.opened < t.time
  number : ∀ i p, j.published[i]? = some p → p.number + i = j.count

theorem timely_empty : (empty : Journal α).Timely :=
  ⟨nofun, nofun, nofun, nofun, nofun⟩

/-- Every turn keeps the times in order. -/
theorem Timely.turn {b after : Buffer α} {act : Act α} (timely : j.Timely) (ordered : j.Ordered)
    (turn : Turn j b after act) : (j.note act).Timely := by
  cases turn with
  | openWrite place closed word cells =>
      exact ⟨timely.published, timely.reads, timely.reading, timely.stores, timely.number⟩
  | openRead place closed ready word cells =>
      refine ⟨timely.published, timely.reads, ?_, timely.stores, timely.number⟩
      rintro a ⟨⟩ r among
      exact ordered.reads r among
  | @store side effect access opened word cells =>
      rw [note_store opened]
      refine ⟨timely.published, timely.reads, timely.reading, ?_, timely.number⟩
      have before : access.opened < j.clock := by
        cases side with
        | producer => exact ordered.writing access opened
        | consumer =>
            obtain ⟨a, reading, rfl⟩ := Option.map_eq_some_iff.mp opened
            exact ordered.reading a reading
      exact List.forall_mem_cons.mpr ⟨before, timely.stores⟩
  | @closeWrite value access opened content word cells =>
      rw [note_closeWrite opened]
      refine ⟨List.forall_mem_cons.mpr ⟨ordered.writing access opened, timely.published⟩,
        timely.reads, timely.reading, timely.stores, ?_⟩
      intro i p found
      cases i with
      | zero =>
          cases found
          rfl
      | succ i => exact congrArg Nat.succ (timely.number i p found)
  | @closeRead access opened word cells =>
      rw [note_closeRead opened]
      exact ⟨timely.published,
        List.forall_mem_cons.mpr ⟨ordered.reading access opened, timely.reads⟩, nofun,
        timely.stores, timely.number⟩
  | connect word cells =>
      exact ⟨timely.published, timely.reads, nofun, timely.stores, timely.number⟩

/-- Two publications do not have the same number. -/
theorem Timely.eq_of_number (timely : j.Timely) {p q : Publication α} (first : p ∈ j.published)
    (second : q ∈ j.published) (same : p.number = q.number) : p = q := by
  obtain ⟨i, at_i⟩ := List.mem_iff_getElem?.mp first
  obtain ⟨k, at_k⟩ := List.mem_iff_getElem?.mp second
  have number_i := timely.number i p at_i
  have number_k := timely.number k q at_k
  obtain rfl : i = k := by omega
  exact Option.some.inj (at_i.symm.trans at_k)

/-- No write access overlaps a read access, and none was cut short. -/
structure Apart (j : Journal α) : Prop where
  cutWrites : j.cutWrites = []
  cutReads : j.cutReads = []
  past : ∀ p ∈ j.published, ∀ r ∈ j.reads, p.closed < r.opened ∨ r.closed < p.opened
  writing : ∀ a, j.writing = some a → ∀ r ∈ j.reads, r.closed < a.opened
  reading : ∀ a, j.reading = some a → ∀ p ∈ j.published, p.closed < a.opened
  alone : j.writing = none ∨ j.reading = none

/-- New handles cut nothing short only if no access is open. -/
theorem Apart.none_open_of_connect (apart : (j.note .connect).Apart) :
    j.writing = none ∧ j.reading = none := by
  have no_writer := (List.append_eq_nil_iff.mp apart.cutWrites).1
  have no_reader := (List.append_eq_nil_iff.mp apart.cutReads).1
  exact ⟨Option.toList_eq_nil_iff.mp no_writer,
    Option.toList_eq_nil_iff.mp (List.map_eq_nil_iff.mp no_reader)⟩

/-- Accesses that are kept apart were so before. -/
theorem Apart.earlier {b after : Buffer α} {act : Act α} (apart : (j.note act).Apart)
    (ordered : j.Ordered) (timely : j.Timely) (turn : Turn j b after act) : j.Apart := by
  cases turn with
  | openWrite place closed word cells =>
      refine ⟨apart.cutWrites, apart.cutReads, apart.past, ?_, apart.reading, .inl closed⟩
      intro a writing
      exact nomatch closed.symm.trans writing
  | openRead place closed ready word cells =>
      refine ⟨apart.cutWrites, apart.cutReads, apart.past, apart.writing, ?_, .inr closed⟩
      intro a reading
      exact nomatch closed.symm.trans reading
  | store opened word cells =>
      rw [note_store opened] at apart
      exact ⟨apart.cutWrites, apart.cutReads, apart.past, apart.writing, apart.reading, apart.alone⟩
  | @closeWrite value access opened content word cells =>
      rw [note_closeWrite opened] at apart
      obtain ⟨last, past⟩ := List.forall_mem_cons.mp apart.past
      -- A read access that is still open would have been opened after this publication.
      have idle : j.reading = none := by
        by_contra busy
        obtain ⟨a, reading⟩ := Option.ne_none_iff_exists'.mp busy
        have later : j.clock < a.opened := apart.reading a reading _ List.mem_cons_self
        exact Nat.lt_asymm later (ordered.reading a reading)
      refine ⟨apart.cutWrites, apart.cutReads, past, ?_, ?_, .inr idle⟩
      · intro a writing r among
        cases opened.symm.trans writing
        refine (last r among).resolve_left fun later => ?_
        exact Nat.lt_asymm later ((timely.reads r among).trans (ordered.reads r among))
      · intro a reading
        exact nomatch idle.symm.trans reading
  | @closeRead access opened word cells =>
      rw [note_closeRead opened] at apart
      have idle : j.writing = none := by
        by_contra busy
        obtain ⟨a, writing⟩ := Option.ne_none_iff_exists'.mp busy
        have later : j.clock < a.opened := apart.writing a writing _ List.mem_cons_self
        exact Nat.lt_asymm later (ordered.writing a writing)
      refine ⟨apart.cutWrites, apart.cutReads, ?_, ?_, ?_, .inl idle⟩
      · intro p among r read
        exact apart.past p among r (List.mem_cons_of_mem _ read)
      · intro a writing
        exact nomatch idle.symm.trans writing
      · intro a reading p among
        cases opened.symm.trans reading
        refine (apart.past p among _ List.mem_cons_self).resolve_right fun later => ?_
        exact Nat.lt_asymm later ((timely.published p among).trans (ordered.closed p among))
  | connect word cells =>
      obtain ⟨writing, reading⟩ := apart.none_open_of_connect
      have cutWrites := (List.append_eq_nil_iff.mp apart.cutWrites).2
      have cutReads := (List.append_eq_nil_iff.mp apart.cutReads).2
      refine ⟨cutWrites, cutReads, apart.past, ?_, ?_, .inl writing⟩
      · intro a opened
        exact nomatch writing.symm.trans opened
      · intro a opened
        exact nomatch reading.symm.trans opened

/-! ## What reads leave of a publication -/

/-- The read accesses, the open one first. -/
def readAccesses (j : Journal α) : List ReadAccess :=
  j.reading.toList ++ j.reads.map (·.toReadAccess)

/-- Whether a store was made through a read access to the publication with a given number. -/
def throughRead (j : Journal α) (number : Nat) (t : Store α) : Bool :=
  t.side = .consumer && j.readAccesses.any fun a => a.toAccess = t.toAccess && a.number = number

/-- What the consumer left of a publication: the published value, with everything done to it that was
stored through the read accesses to that publication. -/
def left (j : Journal α) (p : Publication α) : α :=
  (j.stores.filter (j.throughRead p.number)).foldr (fun t value => t.effect value) p.value

theorem throughRead_same {later : Journal α} (accesses : later.readAccesses = j.readAccesses) :
    later.throughRead = j.throughRead := by
  funext number t
  simp only [throughRead, accesses]

theorem left_same {later : Journal α} (stores : later.stores = j.stores)
    (accesses : later.readAccesses = j.readAccesses) : later.left = j.left := by
  funext p
  rw [left, left, stores, throughRead_same accesses]

/-- Nothing is left of a publication but its value if none of the read accesses was given to it. -/
theorem left_of_unread {p : Publication α} (unread : ∀ a ∈ j.readAccesses, a.number ≠ p.number) :
    j.left p = p.value := by
  have none_through : j.stores.filter (j.throughRead p.number) = [] := by
    rw [List.filter_eq_nil_iff]
    intro t _ through
    simp only [throughRead, Bool.and_eq_true, List.any_eq_true, decide_eq_true_eq] at through
    obtain ⟨-, a, among, -, given⟩ := through
    exact unread a among given
  rw [left, none_through]
  rfl

theorem left_openRead (timely : j.Timely) (ordered : j.Ordered) (idle : j.reading = none)
    (c : Cell) : (j.note (.openRead c)).left = j.left := by
  funext p
  have same : j.stores.filter ((j.note (.openRead c)).throughRead p.number) =
      j.stores.filter (j.throughRead p.number) := by
    apply List.filter_congr
    intro t among
    have earlier : t.opened < j.clock := (timely.stores t among).trans (ordered.stores t among)
    have other : (⟨c, j.clock⟩ : Access) ≠ t.toAccess := by
      rintro same
      exact absurd (congrArg Access.opened same) (Nat.ne_of_gt earlier)
    simp [throughRead, readAccesses, note, enter, idle, other]
  exact congrArg (List.foldr _ p.value) same

/-- What is left of a publication after another store. -/
theorem left_store {side : Race.Side} {access : Access} (opened : j.access? side = some access)
    (effect : α → α) (p : Publication α) :
    (j.note (.store side effect)).left p =
      if j.throughRead p.number ⟨access, side, j.clock, effect⟩ then effect (j.left p)
      else j.left p := by
  have through : (j.note (.store side effect)).throughRead = j.throughRead := by
    rw [note_store opened]
    exact throughRead_same rfl
  have stores : (j.note (.store side effect)).stores =
      ⟨access, side, j.clock, effect⟩ :: j.stores := by
    rw [note_store opened]
  rw [left, through, stores, List.filter_cons]
  split <;> rfl

/-- The stores that are made through the open read access are made to the publication to which it
was given. -/
theorem throughRead_open {access : ReadAccess} (timely : j.Timely)
    (opened : j.reading = some access) (time : Nat) (effect : α → α) (number : Nat) :
    j.throughRead number ⟨access.toAccess, .consumer, time, effect⟩ =
      decide (access.number = number) := by
  have past : (j.reads.map (·.toReadAccess)).any
      (fun a => a.toAccess = access.toAccess && a.number = number) = false := by
    rw [List.any_eq_false]
    rintro a among given
    obtain ⟨r, read, rfl⟩ := List.mem_map.mp among
    have same : r.toAccess = access.toAccess :=
      of_decide_eq_true (Bool.and_eq_true_iff.mp given).1
    have before := (timely.reads r read).trans (timely.reading access opened r read)
    exact Nat.ne_of_lt before (congrArg Access.opened same)
  simp [throughRead, readAccesses, opened, past]

theorem left_closeRead {access : ReadAccess} (opened : j.reading = some access) :
    (j.note .closeRead).left = j.left := by
  rw [note_closeRead opened]
  refine left_same rfl ?_
  rw [readAccesses, readAccesses, opened]
  rfl

/-! ## Cells by turns -/

/-- The cells have been written by turns, the next one in its turn is at the back and not fresh, and
each of them contains what is left of its newest publication, if no write access is open to it. -/
structure Alternating (j : Journal α) (initial : α) (b : Buffer α) : Prop where
  back : b.word.fields.back.index = j.count % 2
  spent : b.word.fields.fresh.get b.word.fields.back = false
  turns : ∀ p ∈ j.published, p.cell.index = (p.number - 1) % 2
  content : ∀ c, (∀ a, j.writing = some a → a.cell ≠ c) →
    b.load c = (j.newestIn? c).elim initial j.left

namespace Alternating

variable {initial : α} {b after : Buffer α}

theorem new (initial : α) : (empty : Journal α).Alternating initial (.new initial) where
  back := by
    rw [Buffer.fields_new]
    rfl
  spent := by
    rw [Buffer.fields_new]
    rfl
  turns := nofun
  content c _ := Cells.get_both initial c

/-- What neither moves the fields nor touches the contents. -/
theorem same {later : Journal α} (alternating : j.Alternating initial b)
    (back : after.word.fields.back = b.word.fields.back)
    (fresh : after.word.fields.fresh.get b.word.fields.back =
      b.word.fields.fresh.get b.word.fields.back)
    (cells : after.cells = b.cells)
    (published : later.published = j.published) (left : later.left = j.left)
    (writing : ∀ a, j.writing = some a → later.writing = some a) :
    later.Alternating initial after where
  back := by
    rw [back, alternating.back, count, count, published]
  spent := by
    rw [back, fresh, alternating.spent]
  turns := published ▸ alternating.turns
  content c elsewhere := by
    rw [Buffer.load, cells, left, newestIn?, published]
    exact alternating.content c fun a opened => elsewhere a (writing a opened)

/-- A store moves no field and publishes nothing, so that only the contents are in question. -/
theorem store {side : Race.Side} {access : Access} {effect : α → α}
    (alternating : j.Alternating initial b) (opened : j.access? side = some access)
    (word : after.word = b.word)
    (content : ∀ c, (∀ a, j.writing = some a → a.cell ≠ c) →
      after.load c = (j.newestIn? c).elim initial (j.note (.store side effect)).left) :
    (j.note (.store side effect)).Alternating initial after := by
  have stored := note_store opened effect
  constructor
  · rw [stored, word]
    exact alternating.back
  · rw [word]
    exact alternating.spent
  · rw [stored]
    exact alternating.turns
  · intro c elsewhere
    have newest_same : (j.note (.store side effect)).newestIn? c = j.newestIn? c := by
      rw [stored]
      rfl
    rw [newest_same]
    rw [stored] at elsewhere
    exact content c elsewhere

theorem storeWrite {access : Access} {effect : α → α} (alternating : j.Alternating initial b)
    (opened : j.writing = some access) (word : after.word = b.word)
    (cells : after.cells = b.cells.set (effect (b.load access.cell)) access.cell) :
    (j.note (.store .producer effect)).Alternating initial after := by
  have opened_access : j.access? .producer = some access := opened
  have left (p : Publication α) : (j.note (.store .producer effect)).left p = j.left p :=
    (left_store opened_access effect p).trans (if_neg Bool.false_ne_true)
  refine alternating.store opened_access word fun c elsewhere => ?_
  rw [funext left, Buffer.load, cells, Cells.get_set_of_ne _ _ (elsewhere access opened).symm]
  exact alternating.content c elsewhere

theorem storeRead {access : ReadAccess} {effect : α → α} (alternating : j.Alternating initial b)
    (timely : j.Timely) (tally : j.Tally b.word.fields) (coherent : j.Coherent b.word.fields)
    (opened : j.reading = some access) (word : after.word = b.word)
    (cells : after.cells = b.cells.set (effect (b.load access.cell)) access.cell) :
    (j.note (.store .consumer effect)).Alternating initial after := by
  have opened_access : j.access? .consumer = some access.toAccess := by
    rw [access?, opened, Option.map_some]
  have left (p : Publication α) : (j.note (.store .consumer effect)).left p =
      if access.number = p.number then effect (j.left p) else j.left p := by
    simp only [left_store opened_access, throughRead_open timely opened, decide_eq_true_eq]
  obtain ⟨place, fresh⟩ := coherent.reader access opened
  obtain ⟨p, newest⟩ : ∃ p, j.newestIn? access.cell = some p :=
    place ▸ exists_newestIn? (Nat.zero_lt_of_lt (tally.unread _ fresh))
  have number : access.number = p.number := (tally.held access opened).trans (latest_eq newest)
  refine alternating.store opened_access word fun c elsewhere => ?_
  have before := alternating.content c elsewhere
  rw [Buffer.load, cells]
  by_cases here : c = access.cell
  · rw [here, newest, Option.elim_some] at before
    rw [here, newest, Option.elim_some, left, if_pos number, Cells.get_set_self, before]
  · rw [Cells.get_set_of_ne _ _ here]
    cases found : j.newestIn? c with
    | none =>
        rw [found] at before
        exact before
    | some q =>
        -- The newest publication in the other cell is not the one that is being read.
        have other : access.number ≠ q.number := by
          intro same
          have equal := timely.eq_of_number (newestIn?_mem newest) (newestIn?_mem found)
            (number.symm.trans same)
          exact here ((cell_newestIn? found).symm.trans (equal ▸ cell_newestIn? newest))
        rw [found] at before
        rw [Option.elim_some, left, if_neg other]
        exact before

theorem closeWrite {access : Access} (alternating : j.Alternating initial b)
    (tally : j.Tally b.word.fields) (coherent : j.Coherent b.word.fields)
    (opened : j.writing = some access) (idle : j.reading = none)
    (word : after.word.fields = b.word.fields.writeClosed) (cells : after.cells = b.cells) :
    (j.note (.closeWrite (b.load access.cell))).Alternating initial after := by
  have place := coherent.writer access opened
  have alone : b.word.fields.openCount = 1 := by
    rw [coherent.count, opened, idle]
    rfl
  rw [Fields.writeClosed_of_alone alone] at word
  have left : (j.note (.closeWrite (b.load access.cell))).left = j.left := by
    rw [note_closeWrite opened]
    exact left_same rfl rfl
  constructor
  · rw [word, count_publish opened]
    have back := alternating.back
    have turned : b.word.fields.published.presented.back.index =
        (b.word.fields.back.index + 1) % 2 := Cell.index_other _
    omega
  · rw [word]
    exact Fields.get_fresh_presented
  · rw [note_closeWrite opened]
    refine List.forall_mem_cons.mpr ⟨?_, alternating.turns⟩
    rw [place, alternating.back]
    rfl
  · intro c _
    rw [left, Buffer.load, cells]
    by_cases here : c = access.cell
    · rw [here, newestIn?_publish_self opened, Option.elim_some, left_of_unread]
      · rfl
      · intro a among given
        rw [readAccesses, idle] at among
        obtain ⟨r, read, rfl⟩ := List.mem_map.mp among
        have known := (tally.reads_le r read).trans tally.lastRead_le
        exact Nat.not_succ_le_self _ (given ▸ known)
    · rw [newestIn?_publish_of_ne opened here]
      refine alternating.content c fun a writing => ?_
      cases opened.symm.trans writing
      exact fun same => here same.symm

/-- With no write access open, a read that is closed leaves the cells in their places. -/
theorem closeRead {access : ReadAccess} (alternating : j.Alternating initial b)
    (coherent : j.Coherent b.word.fields) (opened : j.reading = some access)
    (word : after.word.fields = b.word.fields.readClosed access.cell)
    (cells : after.cells = b.cells) : (j.note .closeRead).Alternating initial after := by
  have place : b.word.fields.back ≠ access.cell := by
    rw [(coherent.reader access opened).1]
    exact Fields.front_ne_back.symm
  have spent : (b.word.fields.released access.cell).fresh.get b.word.fields.back = false :=
    (Fields.get_fresh_released_of_ne place).trans alternating.spent
  have stays : b.word.fields.readClosed access.cell = b.word.fields.released access.cell := by
    rw [Fields.readClosed, if_neg]
    rintro ⟨-, behind⟩
    exact Bool.false_ne_true (spent.symm.trans behind)
  rw [stays] at word
  have left := left_closeRead opened
  rw [note_closeRead opened] at left ⊢
  refine alternating.same ?_ ?_ cells rfl left fun a writing => writing
  · rw [word]
    rfl
  · rw [word, spent, alternating.spent]

/-- As long as the accesses are kept apart, every turn leaves the cells alternating. -/
theorem turn {act : Act α} (alternating : j.Alternating initial b) (sound : j.Sound b)
    (timely : j.Timely) (coherent : j.Coherent b.word.fields) (before : j.Apart)
    (apart : (j.note act).Apart) (turn : Turn j b after act) :
    (j.note act).Alternating initial after := by
  cases turn with
  | openWrite place closed word cells =>
      refine alternating.same ?_ ?_ cells rfl (left_same rfl rfl) ?_
      · rw [word]
        rfl
      · rw [word]
        rfl
      · intro a writing
        exact nomatch closed.symm.trans writing
  | openRead place closed ready word cells =>
      refine alternating.same ?_ ?_ cells rfl ?_ fun a writing => writing
      · rw [word]
        rfl
      · rw [word]
        rfl
      · exact left_openRead timely sound.ordered closed _
  | @store side effect access opened word cells =>
      cases side with
      | producer => exact alternating.storeWrite opened word cells
      | consumer =>
          obtain ⟨a, reading, rfl⟩ := Option.map_eq_some_iff.mp opened
          exact alternating.storeRead timely sound.tally coherent reading word cells
  | closeWrite opened content word cells =>
      cases content
      have idle : j.reading = none :=
        before.alone.resolve_left fun none_open => nomatch none_open.symm.trans opened
      exact alternating.closeWrite sound.tally coherent opened idle word cells
  | closeRead opened word cells => exact alternating.closeRead coherent opened word cells
  | connect word cells =>
      obtain ⟨writing, reading⟩ := apart.none_open_of_connect
      have vacant := coherent.vacant ⟨writing, reading⟩
      rw [Fields.atRest_eq_self vacant (coherent.settled vacant)] at word
      refine alternating.same ?_ ?_ cells rfl (left_same rfl ?_) ?_
      · rw [word]
      · rw [word]
      · rw [readAccesses, readAccesses, reading]
        rfl
      · intro a opened
        exact nomatch writing.symm.trans opened

end Alternating

/-- The publication before last is the newest one in the back cell. -/
theorem Alternating.newestIn?_back {initial : α} {b : Buffer α}
    (alternating : j.Alternating initial b) (timely : j.Timely) :
    j.newestIn? b.word.fields.back = j.published[1]? := by
  have back := alternating.back
  cases published : j.published with
  | nil =>
      rw [newestIn?, published]
      rfl
  | cons p rest =>
      have number : p.number = j.count := timely.number 0 p (by rw [published]; rfl)
      have last := alternating.turns p (published ▸ List.mem_cons_self)
      have other : p.cell ≠ b.word.fields.back := by
        intro same
        have made : 0 < j.count := by simp [count, published]
        rw [same, back, number] at last
        omega
      rw [newestIn?, published,
        List.find?_cons_of_neg (by simpa only [decide_eq_true_eq] using other)]
      cases rest with
      | nil => rfl
      | cons q rest =>
          have number : q.number + 1 = j.count := timely.number 1 q (by rw [published]; rfl)
          have turn := alternating.turns q
            (published ▸ List.mem_cons_of_mem _ List.mem_cons_self)
          have made : 2 ≤ j.count := by simp [count, published]
          have here : q.cell = b.word.fields.back := by
            apply Cell.index_injective
            omega
          exact List.find?_cons_of_pos (decide_eq_true here)

/-- What a write access gets, if it is the one with a certain number in a session: one of the two
cells by turns, and in it the initial value the first time, and thereafter what the consumer left of
the publication before last. -/
structure Gets (j : Journal α) (initial : α) (number : Nat) (c : Cell) (content : α) : Prop where
  place : c.index = (number - 1) % 2
  first : number ≤ 2 → content = initial
  again : 2 < number → ∃ p ∈ j.published, p.number = number - 2 ∧ content = j.left p

/-- The next write access gets the back cell, as it stands. -/
theorem Alternating.gets {initial : α} {b : Buffer α} (alternating : j.Alternating initial b)
    (timely : j.Timely) (idle : j.writing = none) :
    j.Gets initial (j.count + 1) b.word.fields.back (b.load b.word.fields.back) := by
  have content := alternating.content b.word.fields.back fun a opened =>
    nomatch idle.symm.trans opened
  rw [alternating.newestIn?_back timely] at content
  refine ⟨alternating.back, ?_, ?_⟩
  · intro few
    have few : j.published.length ≤ 1 := Nat.le_of_succ_le_succ few
    rw [content, List.getElem?_eq_none few]
    rfl
  · intro many
    have many : 1 < j.published.length := Nat.lt_of_succ_lt_succ many
    have found := List.getElem?_eq_getElem many
    have number : j.published[1].number + 1 = j.count := timely.number 1 _ found
    rw [found] at content
    exact ⟨j.published[1], List.getElem_mem many, by omega, content⟩

end Journal

namespace Session

section

variable {s : Session α}

theorem step_start_of_fresh [Inspect α] (out : s.handles = some .fresh)
    (vacant : s.buffer.word.openCount = 0) :
    s.step (.handles (.input .start) : Request α ρ) =
      (.cell s.buffer.word.back,
        ⟨⟨s.buffer.word.entered, s.buffer.cells⟩, some ⟨.held s.buffer.word.back, .idle⟩⟩) := by
  obtain ⟨b, handles⟩ := s
  cases out
  have room : b.word.openCount < 2 := by
    have none_open : b.word.openCount = 0 := vacant
    omega
  simp only [step, stepHandles, Handles.fresh, answerInput, Buffer.openWrite_eq room, withInput]

theorem step_write_of_fresh [Inspect α] (out : s.handles = some .fresh)
    (vacant : s.buffer.word.openCount = 0) (value : α) :
    (s.step (.handles (.input (.write value)) : Request α ρ)).1 = .done := by
  obtain ⟨b, handles⟩ := s
  cases out
  have vacant : b.word.openCount = 0 := vacant
  have busy : 0 < b.word.entered.openCount := by
    rw [← Word.openCount_fields, Word.fields_entered (by omega)]
    exact Nat.succ_pos _
  obtain ⟨left, -, closes⟩ := closeWrite_eq (ρ := ρ)
    (b := (⟨b.word.entered, b.cells⟩ : Buffer α).store b.word.back value) busy
  have room : b.word.openCount < 2 := by omega
  simp only [step, stepHandles, Handles.fresh, answerInput, Buffer.openWrite_eq room, closes,
    withInput]

end

variable [Inspect α]

theorem alternating_journal (initial : α) (requests : List (Request α ρ)) :
    let j := journal requests (new (.new initial))
    j.Timely ∧ (j.Apart → j.Alternating initial (run requests (new (.new initial))).buffer) := by
  refine (journal_induction
    (motive := fun j b => j.Sound b ∧ j.Timely ∧ (j.Apart → j.Alternating initial b)) ?_
    initial ⟨Journal.sound_new initial, Journal.timely_empty, fun _ => .new initial⟩ requests).2
  rintro j b after act coherent ⟨sound, timely, alternating⟩ turn
  refine ⟨sound.turn coherent turn, timely.turn sound.ordered turn, fun apart => ?_⟩
  have before := apart.earlier sound.ordered timely turn
  exact (alternating before).turn sound timely coherent before apart turn

/-- As long as no write access overlaps a read access and none was cut short, whatever was read and
altered in between and however often new handles were given out, every write access got one of the
two cells by turns.  So does the next one, and there it finds the initial value or what the consumer
left of the publication before last.  A guard is over that cell with those contents, and what is
written without a guard is published there under the next number. -/
theorem cells_alternate (initial : α) (requests : List (Request α ρ)) :
    let s := run requests (new (.new initial))
    let j := journal requests (new (.new initial))
    j.Apart →
      (∀ p ∈ j.published, p.cell.index = (p.number - 1) % 2) ∧
        (s.handles = some .fresh →
          ∃ c content, j.Gets initial (j.count + 1) c content ∧
            (let next := s.step (.handles (.input .start) : Request α ρ)
            next.1 = .cell c ∧ next.2.handles = some ⟨.held c, .idle⟩ ∧
              next.2.buffer.load c = content) ∧
            ∀ value, ∃ p,
              (s.record j (.handles (.input (.write value)) : Request α ρ)).newest? = some p ∧
                p.cell = c ∧ p.number = j.count + 1 ∧ p.value = value) := by
  intro s j apart
  have accounted : Accounted j s := accounted_journal initial requests
  obtain ⟨timely, alternating⟩ := alternating_journal initial requests
  have alternating : j.Alternating initial s.buffer := alternating apart
  refine ⟨alternating.turns, fun out => ?_⟩
  have idle := (accounted.linked _ out).none_open.1
  have vacant := accounted.vacant_of_fresh out
  refine ⟨s.buffer.word.back, _, alternating.gets timely idle, ?_, ?_⟩
  · rw [step_start_of_fresh out vacant]
    exact ⟨rfl, rfl, rfl⟩
  · intro value
    refine ⟨⟨⟨s.buffer.word.back, j.clock⟩, j.clock + 2, j.count + 1, value⟩, ?_, rfl, rfl, rfl⟩
    have starts : s.startWrite = [.openWrite s.buffer.word.back] := by
      simp only [startWrite, writeCell, out, Handles.fresh]
    rw [record, step_write_of_fresh out vacant, acts, starts]
    rfl

/-- The first value is altered while it is read, and new handles are given out. -/
def revised : List (Request Nat Unit) :=
  [.owner .connect, .handles (.input (.write 1)), .handles (.output .start),
    .handles (.readGuard (.edit (.set 10))), .handles (.readGuard .finish),
    .handles (.output .read), .owner .connect, .handles (.input (.write 2))]

theorem cells_alternate_revised :
    let s := run revised (new (.new 0))
    let j := journal revised (new (.new 0))
    j.Apart ∧ s.handles = some .fresh ∧ j.published.map (·.value) = [2, 1] ∧
      j.Gets 0 3 .first 10 ∧
      (s.step (.handles (.input .start) : Request Nat Unit)).1 = .cell .first := by
  have writing : (journal revised (new (.new 0))).writing = none := by decide +kernel
  have reading : (journal revised (new (.new 0))).reading = none := by decide +kernel
  have apart : (journal revised (new (.new 0))).Apart := by
    refine ⟨by decide +kernel, by decide +kernel, by decide +kernel, ?_, ?_, .inl writing⟩
    · intro a opened
      exact nomatch writing.symm.trans opened
    · intro a opened
      exact nomatch reading.symm.trans opened
  have out : (run revised (new (.new 0))).handles = some .fresh := by decide +kernel
  obtain ⟨c, content, gets, ⟨entered, -, found⟩, -⟩ := (cells_alternate 0 revised apart).2 out
  cases entered
  cases found
  exact ⟨apart, out, by decide +kernel, gets, rfl⟩

end Session

end Handover
