import Handover.Proofs.Session.Coherence
import Handover.Proofs.Session.Contents

/-!
# Two fresh cells

Two fresh cells at a time are the sign of a publication that could not be brought to the front.  It
was made during the read access that is open, or during one that was cut short when new handles were
given out.

`Journal.Sound` joins this to the other invariants of a journal.
-/

namespace Handover

variable {α ρ : Type}

namespace Journal

variable {j : Journal α}

/-- The newest publication was made after a certain time. -/
def NewestAfter (j : Journal α) (time : Nat) : Prop :=
  ∃ p, j.newest? = some p ∧ time < p.closed

/-- A read access to the publication in a cell was cut short, and the newest publication had been
made during that access. -/
def LeftBehind (j : Journal α) (c : Cell) : Prop :=
  ∃ r ∈ j.cutReads, r.number = j.latest c ∧
    ∃ p, j.newest? = some p ∧ r.opened < p.closed ∧ p.closed < r.closed

/-- Why both cells are fresh. -/
def Crowded (j : Journal α) (f : Fields) : Prop :=
  f.fresh.get f.back = true → f.fresh.get f.front = true →
    j.LeftBehind f.front ∨ ∃ a, j.reading = some a ∧ j.NewestAfter a.opened

namespace Crowded

variable {f : Fields}

theorem closeWrite {access : Access} {value : α} (ordered : j.Ordered) (coherent : j.Coherent f)
    (opened : j.writing = some access) : (j.note (.closeWrite value)).Crowded f.writeClosed := by
  intro behind _
  have count := coherent.count
  rw [opened] at count
  cases reading : j.reading with
  | none =>
      have alone : f.openCount = 1 := by simpa [reading] using count
      rw [Fields.writeClosed_of_alone alone] at behind
      exact absurd behind (by simp [Fields.presented])
  | some a =>
      refine .inr ⟨a, (reading_publish opened).trans reading, _, newest?_publish opened, ?_⟩
      exact ordered.reading a reading

theorem closeRead {access : ReadAccess} (coherent : j.Coherent f)
    (opened : j.reading = some access) :
    (j.note .closeRead).Crowded (f.readClosed access.cell) := by
  obtain ⟨place, -⟩ := coherent.reader _ opened
  have cleared : (f.readClosed access.cell).fresh.get access.cell = false := by
    rw [Fields.fresh_readClosed]
    exact Cells.get_set_self _ _ _
  intro behind front
  by_cases same : access.cell = (f.readClosed access.cell).front
  · rw [← same] at front
    exact absurd (cleared.symm.trans front) Bool.false_ne_true
  · rw [← Fields.eq_back_of_ne_front same] at behind
    exact absurd (cleared.symm.trans behind) Bool.false_ne_true

theorem connect (crowded : j.Crowded f) (ordered : j.Ordered) (tally : j.Tally f)
    (coherent : j.Coherent f) : (j.note .connect).Crowded f.atRest := by
  intro behind front
  rw [Fields.fresh_atRest] at behind front
  by_cases held : f.fresh.get f.back = true ∧ f.fresh.get f.front = false
  · -- The cells change places only if one of them is not fresh.
    rw [Fields.atRest, if_pos held] at behind
    exact absurd (held.2.symm.trans behind) Bool.false_ne_true
  · rw [Fields.atRest, if_neg held] at behind front ⊢
    refine .inl ?_
    rcases crowded behind front with ⟨r, cut, left⟩ | ⟨a, reading, p, newest, during⟩
    · exact ⟨r, List.mem_append_right _ cut, left⟩
    · refine ⟨⟨a, j.clock⟩, List.mem_append_left _ ?_, ?_, p, newest, during, ?_⟩
      · exact List.mem_map_of_mem (Option.mem_toList.mpr reading)
      · exact (tally.held a reading).trans (congrArg j.latest (coherent.reader a reading).1)
      · exact ordered.closed p (newest?_mem newest)

/-- Every turn leaves a reason for two fresh cells. -/
theorem turn {b after : Buffer α} {act : Act α} (crowded : j.Crowded b.word.fields)
    (ordered : j.Ordered) (tally : j.Tally b.word.fields) (coherent : j.Coherent b.word.fields)
    (turn : Turn j b after act) : (j.note act).Crowded after.word.fields := by
  cases turn with
  | openWrite place closed word cells =>
      rw [word]
      exact crowded
  | openRead place closed ready word cells =>
      rw [word]
      intro behind front
      rcases crowded behind front with left | ⟨a, reading, -⟩
      · exact .inl left
      · exact nomatch closed.symm.trans reading
  | store opened word cells =>
      rw [note_store opened, word]
      exact crowded
  | closeWrite opened content word cells =>
      rw [word]
      exact .closeWrite ordered coherent opened
  | closeRead opened word cells =>
      rw [word]
      exact .closeRead coherent opened
  | connect word cells =>
      rw [word]
      exact crowded.connect ordered tally coherent

end Crowded

/-! ## All that a journal says about the buffer -/

/-- How a journal stands with the buffer. -/
structure Sound (j : Journal α) (b : Buffer α) : Prop where
  ordered : j.Ordered
  tally : j.Tally b.word.fields
  crowded : j.Crowded b.word.fields
  traced : j.Traced b.word.fields
  stored : j.Stored b

theorem Sound.turn {b after : Buffer α} {act : Act α} (coherent : j.Coherent b.word.fields)
    (sound : j.Sound b) (turn : Turn j b after act) : (j.note act).Sound after where
  ordered := sound.ordered.turn turn
  tally := sound.tally.turn sound.ordered coherent turn
  crowded := sound.crowded.turn sound.ordered sound.tally coherent turn
  traced := sound.traced.turn sound.ordered coherent turn
  stored := sound.stored.turn sound.ordered turn

theorem sound_new (initial : α) : (empty : Journal α).Sound (.new initial) where
  ordered := ordered_empty
  tally := .empty fun c => by rw [Buffer.fields_new, Cells.get_both]
  crowded := by
    rw [Buffer.fields_new]
    nofun
  traced := nofun
  stored := nofun

end Journal

theorem Session.sound_journal [Inspect α] (initial : α) (requests : List (Request α ρ)) :
    (journal requests (new (.new initial))).Sound (run requests (new (.new initial))).buffer :=
  journal_induction (fun coherent sound turn => sound.turn coherent turn) initial
    (Journal.sound_new initial) requests

end Handover
