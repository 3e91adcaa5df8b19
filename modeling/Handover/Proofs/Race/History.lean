import Handover.Proofs.Race.Coherence

/-!
# The history of a race

A history numbers the publications of a race in their order and keeps, for each cell, the number of
the publication last made in it.  A read access is entered under the number that its cell has when
it is opened, together with all the values that are then answered for it.

`Tally` relates the numbers to the flags of the word: the newest publication is the one in a fresh
back cell, or else the one in a fresh front cell, or else the one that was read last.  `Stored` says
where the published values still are.
-/

namespace Handover.Race

variable {α : Type}

/-! ## Histories -/

/-- A read access. -/
structure Reading (α : Type) where
  /-- Number of the publication to which access was given. -/
  number : Nat
  /-- How many publications there had been when it was opened. -/
  heard : Nat
  /-- Values that were answered for it. -/
  values : List α
  /-- Whether it was closed. -/
  closed : Bool
  deriving DecidableEq

/-- What was published and read in a race. -/
structure History (α : Type) where
  /-- The published values in order; they are numbered from one. -/
  published : List α
  /-- Number of the publication last made in each cell, or zero if there was none. -/
  latest : Cells Nat
  /-- The read accesses that were opened, the newest first. -/
  reads : List (Reading α)
  deriving DecidableEq

namespace History

/-- Nothing was published or read. -/
def empty : History α :=
  ⟨[], .both 0, []⟩

/-- How many publications there were. -/
def count (h : History α) : Nat :=
  h.published.length

/-- Value of the publication with a given number. -/
def valueAt (h : History α) : Nat → Option α
  | 0 => none
  | number + 1 => h.published[number]?

/-- Number of the publication that was read last, or zero if there was none. -/
def lastRead (h : History α) : Nat :=
  match h.reads with
  | [] => 0
  | newest :: _ => newest.number

/-- Whether the newest publication was read, and the access to it closed. -/
def Consumed (h : History α) : Prop :=
  ∃ access ∈ h.reads, access.number = h.count ∧ access.closed = true

instance (h : History α) : Decidable h.Consumed :=
  inferInstanceAs (Decidable (∃ access ∈ h.reads, _))

/-- A value is published in a cell. -/
def publish (h : History α) (c : Cell) (value : α) : History α :=
  { h with published := h.published ++ [value], latest := h.latest.set (h.count + 1) c }

/-- A read access to a cell is opened, and values are answered for it. -/
def openRead (h : History α) (c : Cell) (values : List α) : History α :=
  { h with reads := ⟨h.latest.get c, h.count, values, false⟩ :: h.reads }

/-- Further values are answered for the newest read access. -/
def hear (h : History α) (values : List α) : History α :=
  match h.reads with
  | [] => h
  | newest :: older =>
      { h with reads := { newest with values := newest.values ++ values } :: older }

/-- The newest read access is closed. -/
def closeRead (h : History α) : History α :=
  match h.reads with
  | [] => h
  | newest :: older => { h with reads := { newest with closed := true } :: older }

/-- Enter an access of the producer: what it publishes is what the cell it has open contains. -/
def recordWrite (h : History α) (b : Buffer α) (writer : WritePhase α) : Action → History α
  | .publish =>
      match writer.openCell with
      | some c => h.publish c (b.load c)
      | none => h
  | _ => h

/-- Enter an access of the consumer, given where it stands then and the answers made known. -/
def recordRead (h : History α) (next : ReadPhase α) (told : List (Answer α)) : Action → History α
  | .enter =>
      match next.openCell with
      | some c => h.openRead c (told.filterMap Answer.delivered?)
      | none => h
  | .release => h.closeRead
  | _ => h.hear (told.filterMap Answer.delivered?)

/-- Enter an access in the history. -/
def record (h : History α) (r : Race α) (event : Event) (next : Race α) : History α :=
  match event.side with
  | .producer => h.recordWrite r.buffer r.producer.phase event.action
  | .consumer =>
      h.recordRead next.consumer.phase (next.consumer.known.drop r.consumer.known.length)
        event.action

end History

/-- History of a race that follows a schedule. -/
def history [Add α] (schedule : List Side) (r : Race α) : History α :=
  recount History.record schedule r .empty

/-- What holds of an empty trace and history, and is kept by every access, holds of the trace, the
history and the race that a run leaves. -/
theorem history_induction [Add α] {motive : List Event → History α → Race α → Prop} {r : Race α}
    (start : motive [] .empty r)
    (kept : ∀ {past h r side event next}, motive past h r →
      r.step? side = some (event, next) → motive (past ++ [event]) (h.record r event next) next)
    (schedule : List Side) : motive (run schedule r).1 (history schedule r) (run schedule r).2 := by
  have whole := recount_induction (motive := fun r account => motive account.1 account.2 r)
    (fun account r event next => (account.1 ++ [event], account.2.record r event next)) kept
    schedule ([], .empty) start
  rw [recount_pair (fun past _ event _ => past ++ [event]) History.record, recount_events,
    List.nil_append] at whole
  exact whole

namespace History

variable {h : History α}

@[simp]
theorem count_publish (c : Cell) (value : α) : (h.publish c value).count = h.count + 1 := by
  simp [publish, count]

@[simp]
theorem lastRead_publish (c : Cell) (value : α) : (h.publish c value).lastRead = h.lastRead := rfl

theorem valueAt_publish_self (c : Cell) (value : α) :
    (h.publish c value).valueAt (h.count + 1) = some value := by
  simp [valueAt, publish, count]

/-- A later publication leaves the values of the earlier ones. -/
theorem valueAt_publish_of_some {c : Cell} {value earlier : α} {number : Nat}
    (found : h.valueAt number = some earlier) :
    (h.publish c value).valueAt number = some earlier := by
  cases number with
  | zero => exact found
  | succ number =>
      have bounded : number < h.published.length := (List.getElem?_eq_some_iff.mp found).1
      exact (List.getElem?_append_left bounded).trans found

@[simp]
theorem hear_nil : h.hear [] = h := by
  obtain ⟨published, latest, reads⟩ := h
  cases reads <;> simp [hear]

@[simp]
theorem count_hear (values : List α) : (h.hear values).count = h.count := by
  unfold hear
  split <;> rfl

@[simp]
theorem latest_hear (values : List α) : (h.hear values).latest = h.latest := by
  unfold hear
  split <;> rfl

@[simp]
theorem lastRead_hear (values : List α) : (h.hear values).lastRead = h.lastRead := by
  obtain ⟨published, latest, reads⟩ := h
  cases reads <;> rfl

@[simp]
theorem valueAt_hear (values : List α) : (h.hear values).valueAt = h.valueAt := by
  unfold hear
  split <;> rfl

@[simp]
theorem count_closeRead : h.closeRead.count = h.count := by
  unfold closeRead
  split <;> rfl

@[simp]
theorem latest_closeRead : h.closeRead.latest = h.latest := by
  unfold closeRead
  split <;> rfl

@[simp]
theorem lastRead_closeRead : h.closeRead.lastRead = h.lastRead := by
  obtain ⟨published, latest, reads⟩ := h
  cases reads <;> rfl

@[simp]
theorem valueAt_closeRead : h.closeRead.valueAt = h.valueAt := by
  unfold closeRead
  split <;> rfl

@[simp]
theorem length_reads_hear (values : List α) : (h.hear values).reads.length = h.reads.length := by
  obtain ⟨published, latest, reads⟩ := h
  cases reads <;> rfl

@[simp]
theorem length_reads_closeRead : h.closeRead.reads.length = h.reads.length := by
  obtain ⟨published, latest, reads⟩ := h
  cases reads <;> rfl

/-! ## Completeness -/

theorem recordWrite_counts {b after : Buffer α} {writer next : WritePhase α} {action : Action}
    (move : WriteMove b writer after next action) :
    (h.recordWrite b writer action).count = h.count + (if action = .publish then 1 else 0) ∧
      (h.recordWrite b writer action).reads.length = h.reads.length := by
  cases move with
  | publish began word cells goes =>
      rw [began]
      exact ⟨count_publish _ _, rfl⟩
  | look | enter | resume | prepare | present | miss => exact ⟨rfl, rfl⟩

theorem recordRead_counts {b after : Buffer α} {reader next : ReadPhase α}
    {told : List (Answer α)} {action : Action} (move : ReadMove b reader after next told action) :
    (h.recordRead next told action).count = h.count ∧
      (h.recordRead next told action).reads.length =
        h.reads.length + (if action = .enter then 1 else 0) := by
  cases move with
  | enter began word uses tells =>
      rw [recordRead, uses.openCell]
      exact ⟨rfl, rfl⟩
  | release => exact ⟨count_closeRead, length_reads_closeRead⟩
  | look | lookOn | pollEmpty | pollReady | turn | miss =>
      exact ⟨count_hear _, length_reads_hear _⟩

end History

/-- The access is a publication. -/
def Event.publishes (e : Event) : Bool :=
  e.side = .producer ∧ e.action = .publish

/-- The access opens a read access. -/
def Event.opensRead (e : Event) : Bool :=
  e.side = .consumer ∧ e.action = .enter

theorem Move.record_counts {r next : Race α} {event : Event} (move : Move r next event)
    (h : History α) :
    (h.record r event next).count = h.count + (if event.publishes then 1 else 0) ∧
      (h.record r event next).reads.length =
        h.reads.length + (if event.opensRead then 1 else 0) := by
  cases move with
  | producer kept move =>
      have counts := History.recordWrite_counts (h := h) move
      simpa [History.record, Event.publishes, Event.opensRead] using counts
  | consumer kept known move =>
      have counts := History.recordRead_counts (h := h) move
      rw [History.record, known, List.drop_left]
      simpa [Event.publishes, Event.opensRead] using counts

/-- A history holds every publication and every read access of the run. -/
theorem recount_record_counts [Add α] (schedule : List Side) {r : Race α}
    (coherent : r.IsCoherent) (h : History α) :
    (recount History.record schedule r h).count =
        h.count + (run schedule r).1.countP Event.publishes ∧
      (recount History.record schedule r h).reads.length =
        h.reads.length + (run schedule r).1.countP Event.opensRead := by
  induction schedule generalizing r h with
  | nil => exact ⟨rfl, rfl⟩
  | cons side rest induction =>
      simp only [run, recount]
      cases moved : r.step? side with
      | none => exact induction coherent h
      | some found =>
          have move := coherent.move moved
          have counts := move.record_counts h
          have later := induction (coherent.step move) (h.record r found.1 found.2)
          rw [counts.1, counts.2] at later
          simp only [List.countP_cons]
          exact ⟨later.1.trans (by omega), later.2.trans (by omega)⟩

namespace History

variable {h : History α}

/-! ## Numbers and flags -/

/-- How the numbers of the publications stand with the flags of the word while the consumer has an
access open to the given cell, if any. -/
structure Tally (h : History α) (f : Fields) (reading : Option Cell) : Prop where
  /-- A fresh back cell holds the newest publication. -/
  back : f.fresh.get f.back = true → h.latest.get f.back = h.count
  /-- So does a fresh front cell if nothing was published since. -/
  front : f.fresh.get f.back = false → f.fresh.get f.front = true → h.latest.get f.front = h.count
  superseded : f.fresh.get f.back = true → f.fresh.get f.front = true →
    h.latest.get f.front < h.count
  /-- With nothing fresh, the newest publication was the last to be read. -/
  drained : f.fresh.get f.back = false → f.fresh.get f.front = false → h.lastRead = h.count
  unread : ∀ c, f.fresh.get c = true → reading ≠ some c → h.lastRead < h.latest.get c
  held : ∀ c, reading = some c → h.lastRead = h.latest.get c
  lastRead_le : h.lastRead ≤ h.count

namespace Tally

variable {f : Fields} {reading : Option Cell}

theorem empty {f : Fields} (quiet : ∀ c, f.fresh.get c = false) :
    (History.empty : History α).Tally f none where
  back fresh := absurd fresh (by simp [quiet])
  front _ fresh := absurd fresh (by simp [quiet])
  superseded fresh := absurd fresh (by simp [quiet])
  drained _ _ := rfl
  unread c fresh := absurd fresh (by simp [quiet])
  held c opened := absurd opened.symm (Option.some_ne_none c)
  lastRead_le := Nat.le_refl _

/-- Opening an access changes neither the flags nor the places of the cells. -/
theorem entered (tally : h.Tally f reading) : h.Tally f.entered reading :=
  ⟨tally.back, tally.front, tally.superseded, tally.drained, tally.unread, tally.held,
    tally.lastRead_le⟩

theorem hear (tally : h.Tally f reading) (values : List α) : (h.hear values).Tally f reading := by
  obtain ⟨back, front, superseded, drained, unread, held, lastRead_le⟩ := tally
  constructor <;> simpa only [count_hear, latest_hear, lastRead_hear]

theorem latest_front_le (tally : h.Tally f reading) (fresh : f.fresh.get f.front = true) :
    h.latest.get f.front ≤ h.count := by
  cases behind : f.fresh.get f.back
  · exact Nat.le_of_eq (tally.front behind fresh)
  · exact Nat.le_of_lt (tally.superseded behind fresh)

/-- A publication takes the next number, and is not read yet. -/
theorem publish (tally : h.Tally f reading) (apart : reading ≠ some f.back) (value : α) :
    (h.publish f.back value).Tally f.published reading := by
  have marked : f.published.fresh.get f.back = true := Fields.get_fresh_published
  have number : (h.publish f.back value).latest.get f.back = h.count + 1 :=
    Cells.get_set_self _ _ _
  have kept {c : Cell} (other : c ≠ f.back) :
      (h.publish f.back value).latest.get c = h.latest.get c := Cells.get_set_of_ne _ _ other
  constructor
  · intro _
    rw [count_publish]
    exact number
  · intro quiet
    exact absurd (quiet.symm.trans marked) Bool.false_ne_true
  · intro _ fresh
    have before : f.fresh.get f.front = true :=
      (Fields.get_fresh_published_of_ne Fields.front_ne_back).symm.trans fresh
    rw [count_publish]
    exact Nat.lt_succ_of_le ((kept Fields.front_ne_back).trans_le (tally.latest_front_le before))
  · intro quiet
    exact absurd (quiet.symm.trans marked) Bool.false_ne_true
  · intro c fresh closed
    rw [lastRead_publish]
    by_cases same : c = f.back
    · rw [same, number]
      exact Nat.lt_succ_of_le tally.lastRead_le
    · rw [Fields.get_fresh_published_of_ne same] at fresh
      rw [kept same]
      exact tally.unread c fresh closed
  · intro c opened
    have other : c ≠ f.back := by
      rintro rfl
      exact apart opened
    rw [lastRead_publish, kept other]
    exact tally.held c opened
  · rw [lastRead_publish, count_publish]
    exact Nat.le_succ_of_le tally.lastRead_le

/-- Bringing the newest publication to the front gives up what it supersedes there. -/
theorem presented (tally : h.Tally f none) (fresh : f.fresh.get f.back = true) :
    h.Tally f.presented none := by
  have cleared : f.presented.fresh.get f.presented.back = false := Fields.get_fresh_presented
  constructor
  · intro marked
    exact absurd (cleared.symm.trans marked) Bool.false_ne_true
  · intro _ _
    rw [Fields.front_presented]
    exact tally.back fresh
  · intro marked
    exact absurd (cleared.symm.trans marked) Bool.false_ne_true
  · intro _ quiet
    rw [Fields.front_presented, Fields.get_fresh_presented_of_ne Fields.front_ne_back.symm,
      fresh] at quiet
    cases quiet
  · intro c marked closed
    by_cases same : c = f.front
    · rw [same] at marked
      exact absurd (cleared.symm.trans marked) Bool.false_ne_true
    · rw [Fields.get_fresh_presented_of_ne same] at marked
      exact tally.unread c marked closed
  · exact tally.held
  · exact tally.lastRead_le

theorem turned (tally : h.Tally f none) (fresh : f.fresh.get f.back = true)
    (drained : f.fresh.get f.front = false) : h.Tally f.turned none := by
  rw [Fields.turned_eq_presented drained]
  exact tally.presented fresh

/-- An access to the fresh front cell reads the publication made there. -/
theorem openRead (tally : h.Tally f none) (fresh : f.fresh.get f.front = true)
    (values : List α) : (h.openRead f.front values).Tally f (some f.front) := by
  constructor
  · exact tally.back
  · exact tally.front
  · exact tally.superseded
  · intro _ quiet
    exact absurd (quiet.symm.trans fresh) Bool.false_ne_true
  · intro c marked elsewhere
    obtain rfl : c = f.back := Fields.eq_back_of_ne_front fun same => elsewhere (same ▸ rfl)
    change h.latest.get f.front < h.latest.get f.back
    rw [tally.back marked]
    exact tally.superseded marked fresh
  · intro c opened
    cases opened
    rfl
  · exact tally.latest_front_le fresh

/-- A cell that was read is fresh no more. -/
theorem closeRead (tally : h.Tally f (some f.front)) (fresh : f.fresh.get f.front = true) :
    h.closeRead.Tally (f.released f.front) none := by
  have cleared : (f.released f.front).fresh.get f.front = false := Fields.get_fresh_released _
  have kept : (f.released f.front).fresh.get f.back = f.fresh.get f.back :=
    Fields.get_fresh_released_of_ne Fields.front_ne_back.symm
  constructor <;> simp only [count_closeRead, latest_closeRead, lastRead_closeRead]
  · intro marked
    exact tally.back (kept.symm.trans marked)
  · intro _ marked
    exact absurd (cleared.symm.trans marked) Bool.false_ne_true
  · intro _ marked
    exact absurd (cleared.symm.trans marked) Bool.false_ne_true
  · intro quiet _
    exact (tally.held f.front rfl).trans (tally.front (kept.symm.trans quiet) fresh)
  · intro c marked _
    by_cases same : c = f.front
    · rw [same] at marked
      exact absurd (cleared.symm.trans marked) Bool.false_ne_true
    · rw [Fields.get_fresh_released_of_ne same] at marked
      exact tally.unread c marked fun opened => same (Option.some.inj opened).symm
  · intro c opened
    cases opened
  · exact tally.lastRead_le

end Tally

end History

end Handover.Race
