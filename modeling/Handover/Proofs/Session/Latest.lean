import Handover.Proofs.Session.Crowding

/-!
# The newest publication

As long as the handles that were given out first stay out, a read that finds no access to resume
delivers the newest publication, and delivers it once.  It finds nothing when the newest publication
was read already, and in one other case: that publication was made during a read access, and before
this access was closed the producer had opened a write access that is open still.
-/

namespace Handover

variable {α ρ : Type}

/-! ## Publications that are held back -/

namespace Journal

variable {j : Journal α}

/-- The newest publication was made during a read access that was closed since, and the write access
that is open was opened before that. -/
def HeldBack (j : Journal α) : Prop :=
  ∃ a p, j.writing = some a ∧ j.newest? = some p ∧
    ∃ r ∈ j.reads, r.opened < p.closed ∧ p.closed < r.closed ∧ a.opened < r.closed

/-- While no read access is open, a publication that is held back is not in front, and unless a read
access was cut short no other one is out of reach. -/
structure Explained (j : Journal α) (f : Fields) : Prop where
  held : j.reading = none → j.HeldBack → f.fresh.get f.front = false
  only : j.cutReads = [] → j.reading = none → f.fresh.get f.front = false →
    f.fresh.get f.back = true → j.HeldBack

namespace Explained

variable {f : Fields}

theorem openWrite {c : Cell} (ordered : j.Ordered) (coherent : j.Coherent f)
    (closed : j.writing = none) : (j.note (.openWrite c)).Explained f.entered where
  held _ back := by
    obtain ⟨a, p, opened, newest, r, among, -, -, before⟩ := back
    cases opened
    exact absurd before (Nat.lt_asymm (ordered.reads r among))
  only _ idle front behind := by
    have vacant := coherent.vacant ⟨closed, idle⟩
    exact absurd ((coherent.settled vacant behind).symm.trans front) Bool.noConfusion

theorem closeWrite {access : Access} {value : α} (coherent : j.Coherent f)
    (opened : j.writing = some access) : (j.note (.closeWrite value)).Explained f.writeClosed where
  held _ back := by
    obtain ⟨a, p, writing, -⟩ := back
    rw [note_closeWrite opened] at writing
    cases writing
  only _ idle front _ := by
    rw [reading_publish opened] at idle
    have alone : f.openCount = 1 := by
      rw [coherent.count, opened, idle]
      rfl
    exact absurd ((Fields.fresh_front_writeClosed alone).symm.trans front) Bool.noConfusion

theorem closeRead {access : ReadAccess} (ordered : j.Ordered) (crowded : j.Crowded f)
    (coherent : j.Coherent f) (opened : j.reading = some access) :
    (j.note .closeRead).Explained (f.readClosed access.cell) := by
  have after := coherent.closeRead opened
  obtain ⟨place, fresh⟩ := coherent.reader _ opened
  have cleared : (f.readClosed access.cell).fresh.get access.cell = false := by
    rw [Fields.fresh_readClosed]
    exact Cells.get_set_self _ _ _
  rw [note_closeRead opened] at after ⊢
  constructor
  · rintro - ⟨a, p, writing, -⟩
    have shared : f.openCount = 2 := by
      rw [coherent.count, opened, show j.writing = some a from writing]
      rfl
    have busy : (f.released access.cell).openCount ≠ 0 := by simp [Fields.released, shared]
    rw [Fields.readClosed, if_neg fun vacant => busy vacant.1] at cleared ⊢
    rw [place] at cleared ⊢
    exact cleared
  · intro uncut _ front behind
    have kept : (f.readClosed access.cell).back = f.back := by
      refine Fields.eq_back_of_ne_front fun same => ?_
      rw [same, ← place] at behind
      exact absurd (cleared.symm.trans behind) Bool.noConfusion
    have before : f.fresh.get f.back = true := by
      rw [Fields.fresh_readClosed, kept, place,
        Cells.get_set_of_ne _ _ Fields.front_ne_back.symm] at behind
      exact behind
    -- Somebody else is inside, or the reader would have turned the cells.
    have busy : (f.readClosed access.cell).openCount ≠ 0 := fun vacant =>
      absurd ((after.settled vacant behind).symm.trans front) Bool.noConfusion
    obtain ⟨writer, writing⟩ : ∃ a, j.writing = some a := by
      rw [after.count] at busy
      cases writing : j.writing with
      | none => simp [writing] at busy
      | some a => exact ⟨a, rfl⟩
    rcases crowded before fresh with ⟨r, cut, -⟩ | ⟨a, reading, p, newest, during⟩
    · rw [show j.cutReads = [] from uncut] at cut
      cases cut
    · cases opened.symm.trans reading
      exact ⟨writer, p, writing, newest, _, List.mem_cons_self, during,
        ordered.closed p (newest?_mem newest), ordered.writing writer writing⟩

/-- Every turn leaves it explained what is out of reach. -/
theorem turn {b after : Buffer α} {act : Act α} (explained : j.Explained b.word.fields)
    (sound : j.Sound b) (coherent : j.Coherent b.word.fields) (turn : Turn j b after act) :
    (j.note act).Explained after.word.fields := by
  cases turn with
  | openWrite place closed word cells =>
      rw [word]
      exact .openWrite sound.ordered coherent closed
  | openRead place closed ready word cells => exact ⟨nofun, nofun⟩
  | store opened word cells =>
      rw [note_store opened, word]
      exact ⟨explained.held, explained.only⟩
  | closeWrite opened content word cells =>
      rw [word]
      exact .closeWrite coherent opened
  | closeRead opened word cells =>
      rw [word]
      exact .closeRead sound.ordered sound.crowded coherent opened
  | connect word cells =>
      have after := coherent.connect
      rw [word]
      constructor
      · rintro - ⟨a, p, writing, -⟩
        cases writing
      · intro _ _ front behind
        exact absurd ((after.settled Fields.openCount_atRest behind).symm.trans front)
          Bool.noConfusion

end Explained

end Journal

/-! ## Sessions without new handles -/

namespace Session

theorem startWrite_opens (s : Session α) : ∀ act ∈ s.startWrite, act = .openWrite s.writeCell := by
  unfold startWrite
  split <;> simp

theorem startRead_opens (s : Session α) : ∀ act ∈ s.startRead, act = .openRead s.readCell := by
  unfold startRead
  split <;> simp

/-- Only the request for new handles cuts accesses short. -/
theorem connect_not_mem_acts {request : Request α ρ} (other : request ≠ .owner .connect)
    (s : Session α) (reply : Reply α ρ) : .connect ∉ s.acts request reply := by
  have writes : .connect ∉ s.startWrite := fun among => nomatch s.startWrite_opens _ among
  have reads : .connect ∉ s.startRead := fun among => nomatch s.startRead_opens _ among
  unfold acts
  split <;> simp_all

end Session

namespace Journal

variable {j : Journal α}

theorem cut_note {act : Act α} (other : act ≠ .connect) :
    (j.note act).cutWrites = j.cutWrites ∧ (j.note act).cutReads = j.cutReads := by
  cases act with
  | connect => exact absurd rfl other
  | openWrite | openRead => exact ⟨rfl, rfl⟩
  | store | closeWrite | closeRead =>
      simp only [note, enter]
      split <;> exact ⟨rfl, rfl⟩

theorem cut_foldl {acts : List (Act α)} (other : .connect ∉ acts) :
    (acts.foldl note j).cutWrites = j.cutWrites ∧ (acts.foldl note j).cutReads = j.cutReads := by
  induction acts generalizing j with
  | nil => exact ⟨rfl, rfl⟩
  | cons act rest induction =>
      rw [List.mem_cons, not_or] at other
      have now := cut_note (j := j) (Ne.symm other.1)
      have later := induction (j := j.note act) other.2
      exact ⟨later.1.trans now.1, later.2.trans now.2⟩

variable {b : Buffer α}

/-- While no read access is open and none was cut short, there is nothing to read exactly if the
newest publication was read or is held back. -/
theorem Explained.isReady_eq_false_iff (explained : j.Explained b.word.fields) (sound : j.Sound b)
    (idle : j.reading = none) (uncut : j.cutReads = []) :
    b.word.isReady = false ↔ j.count = 0 ∨ j.count = j.lastRead ∨ j.HeldBack := by
  rw [b.word.isReady_eq]
  constructor
  · intro front
    cases behind : b.word.fields.fresh.get b.word.fields.back with
    | true => exact .inr (.inr (explained.only uncut idle front behind))
    | false => exact .inr (.inl (sound.tally.drained behind front).symm)
  · rintro (none_made | read | back)
    · rw [← Bool.not_eq_true]
      intro front
      have unread := sound.tally.unread _ front
      have known := sound.ordered.latest_le b.word.fields.front
      omega
    · rw [← Bool.not_eq_true]
      intro front
      have unread := sound.tally.unread _ front
      have known := sound.ordered.latest_le b.word.fields.front
      omega
    · exact explained.held idle back

/-- What there is to read then is the newest publication, as it was made. -/
theorem Sound.newest_in_front (sound : j.Sound b) (coherent : j.Coherent b.word.fields)
    (idle : j.reading = none) (uncut : j.cutWrites = [] ∧ j.cutReads = [])
    (ready : b.word.isReady = true) :
    ∃ p, j.newest? = some p ∧ b.load b.word.front = p.value := by
  have front : b.word.fields.fresh.get b.word.fields.front = true :=
    b.word.isReady_eq.symm.trans ready
  have behind : b.word.fields.fresh.get b.word.fields.back = false := by
    rw [← Bool.not_eq_true]
    intro behind
    rcases sound.crowded behind front with ⟨r, cut, -⟩ | ⟨a, reading, -⟩
    · rw [uncut.2] at cut
      cases cut
    · exact nomatch idle.symm.trans reading
  obtain ⟨p, newest⟩ := exists_newestIn? (Nat.zero_lt_of_lt (sound.tally.unread _ front))
  refine ⟨p, (sound.tally.front behind front).symm.trans newest, ?_⟩
  refine sound.stored _ p newest ?_
  rintro ⟨t, among, here, since, -⟩
  rcases sound.traced.front coherent front newest among (here.trans (cell_newestIn? newest)) since
    with ⟨-, opened⟩ | cut
  · rw [access?, idle] at opened
    cases opened
  · unfold WasCut at cut
    split at cut
    · rw [uncut.1] at cut
      cases cut
    · obtain ⟨r, cut, -⟩ := cut
      rw [uncut.2] at cut
      cases cut

end Journal

namespace Session

variable [Inspect α]

theorem cut_journalFrom {requests : List (Request α ρ)} (single : .owner .connect ∉ requests)
    (s : Session α) (j : Journal α) :
    (journalFrom requests s j).cutWrites = j.cutWrites ∧
      (journalFrom requests s j).cutReads = j.cutReads := by
  induction requests generalizing s j with
  | nil => exact ⟨rfl, rfl⟩
  | cons request rest induction =>
      rw [List.mem_cons, not_or] at single
      have now := Journal.cut_foldl (j := j)
        (connect_not_mem_acts (Ne.symm single.1) s (s.step request).1)
      have later := induction single.2 (s.step request).2 (s.record j request)
      exact ⟨later.1.trans now.1, later.2.trans now.2⟩

theorem explained_journal (initial : α) (requests : List (Request α ρ)) :
    (journal requests (new (.new initial))).Explained
      (run requests (new (.new initial))).buffer.word.fields := by
  refine (journal_induction (motive := fun j b => j.Sound b ∧ j.Explained b.word.fields) ?_
    initial ⟨Journal.sound_new initial, ?_⟩ requests).2
  · rintro j b after act coherent ⟨sound, explained⟩ turn
    exact ⟨sound.turn coherent turn, explained.turn sound coherent turn⟩
  · rw [Buffer.fields_new]
    exact ⟨fun _ _ => rfl, fun _ _ _ behind => nomatch behind⟩

/-- While the handles given out first are out and no read access is open, a read delivers the newest
publication, unless there is none, it was read last, or it is held back; then nothing is delivered
and nothing changes.  Whether a read would find something is what the consumer is told. -/
theorem newest_publication_read (initial : α) (requests : List (Request α ρ))
    (single : .owner .connect ∉ requests) :
    let all := .owner .connect :: requests
    let s := run all (new (.new initial))
    let j := journal all (new (.new initial))
    ∀ input, s.handles = some ⟨input, .idle⟩ →
      (j.count = 0 ∨ j.count = j.lastRead ∨ j.HeldBack →
        s.step (.handles (.output .read) : Request α ρ) = (.value none, s) ∧
          s.step (.handles (.output .start) : Request α ρ) = (.entry none, s) ∧
          (s.step (.handles (.output .isReady) : Request α ρ)).1 = .truth false) ∧
      (¬ (j.count = 0 ∨ j.count = j.lastRead ∨ j.HeldBack) →
        ∃ p, j.newest? = some p ∧
          (s.step (.handles (.output .read) : Request α ρ)).1 = .value (some p.value) ∧
          (∃ c, (s.step (.handles (.output .start) : Request α ρ)).1 = .entry (some c) ∧
            (s.step (.handles (.output .start) : Request α ρ)).2.buffer.load c = p.value) ∧
          (s.step (.handles (.output .isReady) : Request α ρ)).1 = .truth true) := by
  intro all s j input out
  have accounted : Accounted j s := accounted_journal initial all
  have sound : j.Sound s.buffer := sound_journal initial all
  have explained : j.Explained s.buffer.word.fields := explained_journal initial all
  have uncut : j.cutWrites = [] ∧ j.cutReads = [] := cut_journalFrom single _ _
  have idle : j.reading = none := (accounted.linked _ out).not_reading rfl
  have reach := explained.isReady_eq_false_iff sound idle uncut.2
  constructor
  · intro empty
    exact reads_of_empty out (reach.mpr empty)
  · intro waiting
    have ready : s.buffer.word.isReady = true :=
      Bool.of_not_eq_false fun empty => waiting (reach.mp empty)
    obtain ⟨p, newest, content⟩ :=
      sound.newest_in_front accounted.coherent idle uncut ready
    obtain ⟨reads, starts, cells, tells⟩ := accounted.reads_of_ready (ρ := ρ) none out ready
    refine ⟨p, newest, reads.trans (congrArg (Reply.value ∘ some) content), ⟨_, starts, ?_⟩, tells⟩
    rw [Buffer.load, cells]
    exact content

/-- The second value is published while the first is read, and the producer is back in its cell
before that read is over. -/
def reentered : List (Request Nat Unit) :=
  [.handles (.input (.write 1)), .handles (.output .start), .handles (.input (.write 2)),
    .handles (.input .start), .handles (.readGuard .finish)]

theorem newest_publication_read_reentered :
    let all := .owner .connect :: reentered
    let s := run all (new (.new 0))
    .owner .connect ∉ reentered ∧ s.handles = some ⟨.held .second, .idle⟩ ∧
      (journal all (new (.new 0))).HeldBack ∧
      s.step (.handles (.output .read) : Request Nat Unit) = (.value none, s) := by
  have single : .owner .connect ∉ reentered := by simp [reentered]
  have out : (run (.owner .connect :: reentered) (new (.new 0))).handles =
      some ⟨.held .second, .idle⟩ := by decide +kernel
  have back : (journal (.owner .connect :: reentered) (new (.new 0))).HeldBack :=
    ⟨⟨.second, 8⟩, ⟨⟨.second, 5⟩, 7, 2, 2⟩, by decide +kernel, by decide +kernel,
      ⟨⟨⟨.first, 4⟩, 1⟩, 9⟩, by decide +kernel, by decide, by decide, by decide⟩
  exact ⟨single, out, back,
    ((newest_publication_read 0 reentered single _ out).1 (.inr (.inr back))).1⟩

end Session

end Handover
