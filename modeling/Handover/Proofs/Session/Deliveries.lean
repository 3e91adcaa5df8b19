import Handover.Proofs.Session.Crowding

/-!
# What the consumer gets to see

A consumer that stores nothing gets to see what was published in a cell, as it was published, except
where the producer stored something into the cell afterwards through an access that was cut short.
A cell that is fresh already is opened to the producer like any other, and new handles turn the cells
by their flags alone, so that such a cell comes to the front with a value that was never published.
-/

namespace Handover

variable {α ρ : Type}

namespace Journal

/-- Since the last publication in a cell, the producer altered it through an access that was cut
short. -/
def Tainted (j : Journal α) (c : Cell) : Prop :=
  ∃ p, j.newestIn? c = some p ∧ ∃ t ∈ j.stores, t.side = .producer ∧ t.cell = c ∧
    p.closed < t.time ∧ t.Alters ∧ t.toAccess ∈ j.cutWrites

/-- With a consumer that only looks, some publication accounts for what a fresh front cell contains
unless the cell is tainted. -/
theorem Sound.published_iff {j : Journal α} {b : Buffer α} (sound : j.Sound b)
    (coherent : j.Coherent b.word.fields)
    (looks : ∀ t ∈ j.stores, t.side = .consumer → ¬ t.Alters)
    (fresh : b.word.fields.fresh.get b.word.fields.front = true) :
    (∃ e ∈ j.published, e.cell = b.word.fields.front ∧ e.value = b.load b.word.fields.front ∧
      ¬ j.Altered e) ↔ ¬ j.Tainted b.word.fields.front := by
  constructor
  · rintro ⟨e, among, here, -, unaltered⟩ ⟨p, newest, t, stored, -, there, since, alters, -⟩
    have earlier := sound.ordered.closed_le newest among here
    exact unaltered ⟨t, stored, there.trans here.symm, Nat.lt_of_le_of_lt earlier since, alters⟩
  · intro untainted
    obtain ⟨p, newest⟩ := exists_newestIn? (Nat.zero_lt_of_lt (sound.tally.unread _ fresh))
    have place := cell_newestIn? newest
    have unaltered : ¬ j.Altered p := by
      rintro ⟨t, stored, there, since, alters⟩
      have there := there.trans place
      have own : t.side = .producer := by
        cases side : t.side with
        | producer => rfl
        | consumer => exact absurd alters (looks t stored side)
      have source := sound.traced.front coherent fresh newest stored there since
      rw [WasCut, own] at source
      rcases source with ⟨side, -⟩ | cut
      · cases side
      · exact untainted ⟨p, newest, t, stored, own, there, since, alters, cut⟩
    exact ⟨p, newestIn?_mem newest, place, (sound.stored _ p newest unaltered).symm, unaltered⟩

end Journal

namespace Session

variable [Inspect α]

/-- A value that the consumer gets to see in a cell, by a read or through the guard it holds. -/
inductive Delivers (s : Session α) : Cell → α → Prop
  | read {value : α}
      (answer : (s.step (.handles (.output .read) : Request α Unit)).1 = .value (some value)) :
      Delivers s s.readCell value
  | guard {value : α}
      (answer : (s.step (.handles (.readGuard (.edit .get)) : Request α α)).1 = .edited value) :
      Delivers s s.readCell value

variable {j : Journal α} {s : Session α} {c : Cell} {value : α}

/-- Whatever the consumer gets to see is what a fresh front cell contains. -/
theorem Accounted.delivers_front (accounted : Accounted j s) (delivers : s.Delivers c value) :
    c = s.buffer.word.fields.front ∧ s.buffer.load c = value ∧
      s.buffer.word.fields.fresh.get s.buffer.word.fields.front = true := by
  obtain ⟨b, handles⟩ := s
  cases handles with
  | none => cases delivers <;> contradiction
  | some h =>
      obtain ⟨input, output⟩ := h
      cases output with
      | idle =>
          cases delivers with
          | guard answer => contradiction
          | read answer =>
              cases ready : b.word.isReady with
              | false =>
                  rw [(reads_of_empty rfl ready).1] at answer
                  cases answer
              | true =>
                  rw [(accounted.reads_of_ready none rfl ready).1] at answer
                  cases answer
                  exact ⟨b.word.front_fields.symm, rfl, b.word.isReady_eq.symm.trans ready⟩
      | leaked c =>
          obtain ⟨place, fresh⟩ := accounted.front_of_reading rfl rfl
          cases delivers with
          | guard answer => contradiction
          | read answer =>
              rw [(accounted.reads_of_ready (some c) rfl rfl).1] at answer
              cases answer
              exact ⟨place, rfl, fresh⟩
      | held c =>
          obtain ⟨place, fresh⟩ := accounted.front_of_reading rfl rfl
          cases delivers with
          | read answer => contradiction
          | guard answer =>
              cases answer
              exact ⟨place, rfl, fresh⟩

/-- To a consumer that only looks, what is delivered was published in its cell and not altered
since, if and only if the cell was not altered through a write access that was cut short. -/
theorem delivered_as_published (initial : α) (requests : List (Request α ρ)) :
    let s := run requests (new (.new initial))
    let j := journal requests (new (.new initial))
    (∀ t ∈ j.stores, t.side = .consumer → ¬ t.Alters) → ∀ c value, s.Delivers c value →
      ((∃ e ∈ j.published, e.cell = c ∧ e.value = value ∧ ¬ j.Altered e) ↔ ¬ j.Tainted c) := by
  intro s j looks c value delivers
  have accounted : Accounted j s := accounted_journal initial requests
  have sound : j.Sound s.buffer := sound_journal initial requests
  obtain ⟨rfl, rfl, fresh⟩ := accounted.delivers_front delivers
  exact sound.published_iff accounted.coherent looks fresh

/-- The producer stores into a cell that is not fresh, and its access is cut short. -/
def discarded : List (Request Nat Unit) :=
  [.owner .connect, .handles (.input (.write 1)), .handles (.input .start),
    .handles (.writeGuard (.edit (.set 3))), .handles (.writeGuard .leak), .owner .connect]

theorem delivered_as_published_discarded :
    let s := run discarded (new (.new 0))
    let j := journal discarded (new (.new 0))
    (∀ t ∈ j.stores, t.side = .consumer → ¬ t.Alters) ∧ s.Delivers .first 1 ∧
      ∃ e ∈ j.published, e.cell = .first ∧ e.value = 1 ∧ ¬ j.Altered e := by
  have looks : ∀ t ∈ (journal discarded (new (.new 0))).stores, t.side = .consumer →
      ¬ t.Alters := by
    have own : ∀ t ∈ (journal discarded (new (.new 0))).stores, t.side = .producer := by
      decide +kernel
    intro t among side
    exact nomatch (own t among).symm.trans side
  have delivers : (run discarded (new (.new 0))).Delivers .first 1 := .read rfl
  refine ⟨looks, delivers, (delivered_as_published 0 discarded looks _ _ delivers).mpr ?_⟩
  have before : ∀ t ∈ (journal discarded (new (.new 0))).stores, t.cell = .first →
      ∀ p ∈ (journal discarded (new (.new 0))).published, t.time < p.closed := by
    decide +kernel
  rintro ⟨p, newest, t, among, -, here, since, -⟩
  exact Nat.lt_asymm since (before t among here p (Journal.newestIn?_mem newest))

/-- The producer stores into a cell that is fresh, and its access is cut short. -/
def abandoned : List (Request Nat Unit) :=
  [.owner .connect, .handles (.input (.write 1)), .handles (.output .start),
    .handles (.input (.write 2)), .handles (.input .start),
    .handles (.writeGuard (.edit (.set 3))), .handles (.readGuard .finish),
    .handles (.writeGuard .leak), .owner .connect]

/-- A value is delivered that was never published. -/
theorem unpublished_value_delivered :
    let s := run abandoned (new (.new 0))
    let j := journal abandoned (new (.new 0))
    (∀ t ∈ j.stores, t.side = .producer) ∧ s.Delivers .second 3 ∧
      ∀ e ∈ j.published, e.value ≠ 3 :=
  ⟨by decide +kernel, .read rfl, by decide +kernel⟩

end Session

end Handover
