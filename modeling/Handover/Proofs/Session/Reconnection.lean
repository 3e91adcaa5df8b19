import Handover.Proofs.Session.Crowding

/-!
# Reads between accesses

While no access is open, whatever was leaked before and however often new handles were given out, a
read delivers the newest publication, and delivers it once.  There is one exception.  New handles
turn the cells by their flags alone, and if both are fresh they leave them in their places.  So a
publication that was made during a read access which was then cut short stays behind the older one
to which that access had been given, and is read after it.
-/

namespace Handover

variable {α ρ : Type}

namespace Journal

variable {j : Journal α}

/-- Nothing was published, or the newest publication was read. -/
def CaughtUp (j : Journal α) : Prop :=
  j.count = 0 ∨ ∃ r ∈ j.reads, r.number = j.count

/-- A publication waits in the front cell while no access is open. -/
structure Waiting (j : Journal α) (b : Buffer α) (p : Publication α) : Prop where
  front : j.newestIn? b.word.front = some p
  fresh : b.word.isFresh b.word.front = true
  unread : ∀ r ∈ j.reads, r.number < p.number
  /-- It is the newest one, unless that was left behind. -/
  newest : j.newest? = some p ↔ ¬ j.LeftBehind b.word.front
  /-- The back cell is fresh only if the newest publication was left behind there. -/
  behind : b.word.isFresh b.word.back = true ↔ j.LeftBehind b.word.front
  content : ¬ j.Altered p → b.load b.word.front = p.value
  /-- Nothing was stored since, except through accesses that were cut short. -/
  stores : ∀ t ∈ j.stores, t.cell = b.word.front → p.closed < t.time → j.WasCut t

section

variable {f : Fields}

theorem Tally.caughtUp_iff (tally : j.Tally f) : j.CaughtUp ↔ j.lastRead = j.count := by
  constructor
  · rintro (none_made | ⟨r, among, last⟩)
    · exact none_made ▸ Nat.le_zero.mp (none_made ▸ tally.lastRead_le)
    · exact Nat.le_antisymm tally.lastRead_le (last ▸ tally.reads_le r among)
  · intro read
    cases last : j.reads.head? with
    | none =>
        rw [lastRead, last] at read
        exact .inl read.symm
    | some r =>
        rw [lastRead, last] at read
        exact .inr ⟨r, List.mem_of_mem_head? last, read⟩

/-- A publication that was left behind is fresh in the back cell, and with no read access open
nothing else keeps a fresh value there behind another one. -/
theorem Tally.fresh_back_iff (tally : j.Tally f) (ordered : j.Ordered) (crowded : j.Crowded f)
    (idle : j.reading = none) (front : f.fresh.get f.front = true) :
    f.fresh.get f.back = true ↔ j.LeftBehind f.front := by
  constructor
  · intro behind
    refine (crowded behind front).resolve_right ?_
    rintro ⟨a, reading, -⟩
    exact nomatch idle.symm.trans reading
  · rintro ⟨r, cut, number, p, newest, during, -⟩
    by_contra drained
    have same := tally.front (Bool.eq_false_of_not_eq_true drained) front
    have earlier := ordered.cut_earlier r cut p (newest?_mem newest) during
    rw [number, latest_eq (same.trans newest)] at earlier
    exact Nat.lt_irrefl _ earlier

/-- The publication in a fresh front cell is the newest of all unless the back cell is fresh. -/
theorem Tally.newest_iff (tally : j.Tally f) (ordered : j.Ordered)
    (front : f.fresh.get f.front = true) {p : Publication α}
    (found : j.newestIn? f.front = some p) :
    j.newest? = some p ↔ ¬ f.fresh.get f.back = true := by
  constructor
  · intro newest behind
    have superseded := tally.superseded behind front
    rw [latest_eq found, ordered.newest p newest] at superseded
    exact Nat.lt_irrefl _ superseded
  · intro drained
    exact (tally.front (Bool.eq_false_of_not_eq_true drained) front).symm.trans found

end

variable {b : Buffer α}

theorem Sound.nothing_fresh (sound : j.Sound b) (read : j.CaughtUp) (c : Cell) :
    b.word.isFresh c = false := by
  rw [← Word.fresh_fields, ← Bool.not_eq_true]
  intro fresh
  have unread := sound.tally.unread c fresh
  have known := sound.ordered.latest_le c
  rw [sound.tally.caughtUp_iff.mp read] at unread
  omega

theorem Sound.exists_waiting (sound : j.Sound b) (coherent : j.Coherent b.word.fields)
    (none_open : j.writing = none ∧ j.reading = none) (unread : ¬ j.CaughtUp) :
    ∃ p, j.Waiting b p := by
  have front : b.word.fields.fresh.get b.word.fields.front = true := by
    by_contra empty
    have settled := mt (coherent.settled (coherent.vacant none_open)) empty
    exact unread (sound.tally.caughtUp_iff.mpr (sound.tally.drained
      (Bool.eq_false_of_not_eq_true settled) (Bool.eq_false_of_not_eq_true empty)))
  obtain ⟨p, found⟩ := exists_newestIn? (Nat.zero_lt_of_lt (sound.tally.unread _ front))
  have behind := sound.tally.fresh_back_iff sound.ordered sound.crowded none_open.2 front
  have newest := sound.tally.newest_iff sound.ordered front found
  refine ⟨p, found, ?_, ?_, ?_, ?_, sound.stored _ p found, ?_⟩
  · rw [← Word.fresh_fields]
    exact front
  · intro r among
    rw [← latest_eq found]
    exact Nat.lt_of_le_of_lt (sound.tally.reads_le r among) (sound.tally.unread _ front)
  · rw [newest, behind]
    rfl
  · rw [← Word.fresh_fields]
    exact behind
  · intro t among here since
    refine (sound.traced.front coherent front found among here since).resolve_left ?_
    rintro ⟨-, opened⟩
    rw [access?, none_open.2] at opened
    cases opened

end Journal

namespace Session

variable [Inspect α]

/-- A read that finds a value, with nobody else inside. -/
theorem step_read_of_ready {s : Session α} (out : s.handles = some .fresh)
    (vacant : s.buffer.word.fields.openCount = 0) (ready : s.buffer.word.isReady = true) :
    ∃ left : Word,
      left.fields = s.buffer.word.fields.entered.readClosed s.buffer.word.fields.front ∧
        s.step (.handles (.output .read) : Request α ρ) =
          (.value (some (s.buffer.load s.buffer.word.front)),
            ⟨⟨left, s.buffer.cells⟩, some .fresh⟩) := by
  obtain ⟨b, handles⟩ := s
  cases out
  have vacant : b.word.openCount = 0 := vacant
  have inside : b.word.entered.fields = b.word.fields.entered :=
    Word.fields_entered (by omega)
  have busy : 0 < b.word.entered.openCount := by
    rw [← Word.openCount_fields, inside]
    exact Nat.succ_pos _
  have fresh : b.word.entered.isFresh b.word.front = true := by
    rw [← Word.fresh_fields, inside, ← Word.front_fields]
    exact b.word.isReady_eq.symm.trans ready
  have opens := Buffer.openRead_of_ready (b := b) (by omega) ready
  obtain ⟨left, effect, closes⟩ := closeRead_eq (b := ⟨b.word.entered, b.cells⟩) busy fresh
    (.value (some (b.load b.word.front)) : Reply α ρ)
  refine ⟨left, effect.trans (by rw [inside, Word.front_fields]), ?_⟩
  simp only [step, stepHandles, answerOutput, opens]
  exact congrArg (withOutput .idle) closes

/-- What was left behind comes next: the read that delivers what waits in front of it brings it to
the front. -/
theorem left_behind_comes_next (initial : α) (requests : List (Request α ρ)) :
    let s := run requests (new (.new initial))
    let j := journal requests (new (.new initial))
    s.handles = some .fresh → ¬ j.CaughtUp → j.LeftBehind s.buffer.word.front →
      let next := (s.step (.handles (.output .read) : Request α ρ)).2
      next.buffer.word.front = s.buffer.word.back ∧
        j.newestIn? s.buffer.word.back = j.newest? ∧
        (next.step (.handles (.output .read) : Request α ρ)).1 =
          .value (some (s.buffer.load s.buffer.word.back)) := by
  intro s j out unread left next
  have accounted : Accounted j s := accounted_journal initial requests
  have sound : j.Sound s.buffer := sound_journal initial requests
  have none_open := (accounted.linked _ out).none_open
  have vacant := accounted.coherent.vacant none_open
  obtain ⟨p, waiting⟩ := sound.exists_waiting accounted.coherent none_open unread
  have behind : s.buffer.word.fields.fresh.get s.buffer.word.fields.back = true := by
    rw [Word.fresh_fields]
    exact waiting.behind.mpr left
  obtain ⟨word, effect, reads⟩ := step_read_of_ready (ρ := ρ) out vacant waiting.fresh
  rw [Fields.readClosed_entered vacant behind] at effect
  have next_eq : next = ⟨⟨word, s.buffer.cells⟩, some .fresh⟩ := congrArg Prod.snd reads
  have front : word.front = s.buffer.word.back := by
    rw [← Word.front_fields, effect, Fields.front_presented, Word.back_fields]
  have ready : word.isReady = true := by
    rw [word.isReady_eq, effect, Fields.front_presented,
      Fields.get_fresh_presented_of_ne Fields.front_ne_back.symm]
    exact behind
  have vacant : word.fields.openCount = 0 := by
    rw [effect]
    exact vacant
  rw [next_eq]
  obtain ⟨_, -, delivers⟩ :=
    step_read_of_ready (ρ := ρ) (s := ⟨⟨word, s.buffer.cells⟩, some .fresh⟩) rfl vacant ready
  refine ⟨front, ?_, ?_⟩
  · rw [← Word.back_fields]
    exact sound.tally.back behind
  · rw [delivers, ← front]
    rfl

/-- While no access is open, a read finds nothing if the newest publication was read, and then no
cell is fresh.  Otherwise it delivers what waits in the front cell: the newest publication, unless
that was left behind. -/
theorem read_between_accesses (initial : α) (requests : List (Request α ρ)) :
    let s := run requests (new (.new initial))
    let j := journal requests (new (.new initial))
    j.writing = none ∧ j.reading = none →
      (j.CaughtUp → (∀ c, s.buffer.word.isFresh c = false) ∧
        (s.handles.isSome →
          s.step (.handles (.output .read) : Request α ρ) = (.value none, s))) ∧
      (¬ j.CaughtUp → ∃ p, j.Waiting s.buffer p ∧
        (s.handles.isSome → (s.step (.handles (.output .read) : Request α ρ)).1 =
          .value (some (s.buffer.load s.buffer.word.front)))) := by
  intro s j none_open
  have accounted : Accounted j s := accounted_journal initial requests
  have sound : j.Sound s.buffer := sound_journal initial requests
  have fresh_handles {h : Handles} (out : s.handles = some h) : h = .fresh :=
    (accounted.linked h out).eq_fresh none_open
  constructor
  · intro read
    have nothing := sound.nothing_fresh read
    refine ⟨nothing, fun out => ?_⟩
    obtain ⟨h, out⟩ := Option.isSome_iff_exists.mp out
    rw [fresh_handles out] at out
    exact (reads_of_empty out (nothing _)).1
  · intro unread
    obtain ⟨p, waiting⟩ := sound.exists_waiting accounted.coherent none_open unread
    refine ⟨p, waiting, fun out => ?_⟩
    obtain ⟨h, out⟩ := Option.isSome_iff_exists.mp out
    rw [fresh_handles out] at out
    exact (accounted.reads_of_ready none out waiting.fresh).1

/-- A value is published while an older one is read, and that read is cut short. -/
def interrupted : List (Request Nat Unit) :=
  [.owner .connect, .handles (.input (.write 1)), .handles (.output .start),
    .handles (.readGuard .leak), .handles (.input (.write 2)), .owner .connect]

theorem read_between_accesses_interrupted :
    let s := run interrupted (new (.new 0))
    let j := journal interrupted (new (.new 0))
    (j.writing = none ∧ j.reading = none) ∧ ¬ j.CaughtUp ∧ j.LeftBehind s.buffer.word.front ∧
      ∃ p, j.Waiting s.buffer p := by
  have none_open : (journal interrupted (new (.new 0))).writing = none ∧
      (journal interrupted (new (.new 0))).reading = none := by
    constructor <;> decide +kernel
  have unread : ¬ (journal interrupted (new (.new 0))).CaughtUp := by
    rintro (made | ⟨r, among, -⟩)
    · revert made
      decide +kernel
    · have none_read : (journal interrupted (new (.new 0))).reads = [] := by decide +kernel
      rw [none_read] at among
      cases among
  obtain ⟨p, waiting, -⟩ := (read_between_accesses 0 interrupted none_open).2 unread
  exact ⟨none_open, unread, waiting.behind.mp (by decide +kernel), p, waiting⟩

/-- Two publications are to be had at once, and the older one is delivered first. -/
theorem older_publication_first :
    let s := run interrupted (new (.new 0))
    let j := journal interrupted (new (.new 0))
    s.handles = some .fresh ∧ (∀ c, s.buffer.word.isFresh c = true) ∧
      j.newest?.map (·.value) = some 2 ∧ j.reads = [] ∧
      (s.step (.handles (.output .read) : Request Nat Unit)).1 = .value (some 1) := by
  refine ⟨by decide +kernel, ?_, by decide +kernel, by decide +kernel, rfl⟩
  intro c
  cases c <;> decide +kernel

end Session

end Handover
