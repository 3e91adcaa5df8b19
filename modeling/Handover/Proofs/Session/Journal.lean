import Handover.Race.Basic
import Handover.Session.Step

/-!
# The journal of a session

A request opens and closes accesses and stores values; `Session.acts` names what it did, one act at a
time.  A journal numbers the publications of a whole session in their order, over all the handles
that were given out, and keeps for every access when it was opened and when it was closed.  An act
takes one tick of the clock, so that no two of them happen at the same time.

Giving out new handles cuts short the accesses that are still open.  They count as neither closed nor
open from then on.
-/

namespace Handover

/-! ## Accesses -/

/-- An access to a cell. -/
structure Access where
  /-- The cell. -/
  cell : Cell
  /-- When it was opened. -/
  opened : Nat
  deriving DecidableEq

/-- A read access. -/
structure ReadAccess extends Access where
  /-- Number of the publication to which it was given. -/
  number : Nat
  deriving DecidableEq

/-- A write access that was closed. -/
structure Publication (α : Type) extends Access where
  /-- When it was closed. -/
  closed : Nat
  /-- Place among all publications, counted from one. -/
  number : Nat
  /-- What the cell contained when it was closed. -/
  value : α
  deriving DecidableEq

/-- A read access that was closed or cut short. -/
structure PastRead extends ReadAccess where
  /-- When it was closed or cut short. -/
  closed : Nat
  deriving DecidableEq

/-- What was done to the value of a cell through an access to it. -/
structure Store (α : Type) extends Access where
  /-- Whose access it was. -/
  side : Race.Side
  /-- When the store was made. -/
  time : Nat
  /-- What it makes of a value. -/
  effect : α → α

/-- The store is more than a look at the value. -/
def Store.Alters {α : Type} (t : Store α) : Prop :=
  ∃ value, t.effect value ≠ value

/-! ## Journals -/

/-- One thing that a request does to the accesses or to a cell. -/
inductive Act (α : Type) where
  | openWrite (c : Cell)
  | openRead (c : Cell)
  /-- A store through the open access of one side. -/
  | store (side : Race.Side) (effect : α → α)
  /-- The write access is closed, and its cell contains a value. -/
  | closeWrite (value : α)
  | closeRead
  /-- New handles are given out. -/
  | connect

/-- The accesses of a session, up to some time. -/
structure Journal (α : Type) where
  /-- How many acts there were. -/
  clock : Nat
  /-- The publications, the newest first. -/
  published : List (Publication α)
  /-- The write access that is open. -/
  writing : Option Access
  /-- The read accesses that were closed, the newest first. -/
  reads : List PastRead
  /-- The read access that is open. -/
  reading : Option ReadAccess
  /-- The stores, the newest first. -/
  stores : List (Store α)
  /-- The write accesses that were cut short. -/
  cutWrites : List Access
  /-- The read accesses that were cut short. -/
  cutReads : List PastRead

namespace Journal

variable {α : Type}

/-- Nothing has happened yet. -/
def empty : Journal α :=
  ⟨0, [], none, [], none, [], [], []⟩

/-- How many publications there were. -/
def count (j : Journal α) : Nat :=
  j.published.length

/-- The newest publication. -/
def newest? (j : Journal α) : Option (Publication α) :=
  j.published.head?

/-- The newest publication that was made in a cell. -/
def newestIn? (j : Journal α) (c : Cell) : Option (Publication α) :=
  j.published.find? (·.cell = c)

/-- Number of the newest publication that was made in a cell, or zero if there is none. -/
def latest (j : Journal α) (c : Cell) : Nat :=
  (j.newestIn? c).elim 0 (·.number)

/-- Number of the publication read by the access that was closed last, or zero if there is none. -/
def lastRead (j : Journal α) : Nat :=
  j.reads.head?.elim 0 (·.number)

/-- The access that one side has open. -/
def access? (j : Journal α) : Race.Side → Option Access
  | .producer => j.writing
  | .consumer => j.reading.map (·.toAccess)

/-- Enter what an act does to the accesses. -/
def enter (j : Journal α) : Act α → Journal α
  | .openWrite c => { j with writing := some ⟨c, j.clock⟩ }
  | .openRead c => { j with reading := some ⟨⟨c, j.clock⟩, j.latest c⟩ }
  | .store side effect =>
      match j.access? side with
      | none => j
      | some access => { j with stores := ⟨access, side, j.clock, effect⟩ :: j.stores }
  | .closeWrite value =>
      match j.writing with
      | none => j
      | some access =>
          { j with
            published := ⟨access, j.clock, j.count + 1, value⟩ :: j.published
            writing := none }
  | .closeRead =>
      match j.reading with
      | none => j
      | some access => { j with reads := ⟨access, j.clock⟩ :: j.reads, reading := none }
  | .connect =>
      { j with
        writing := none
        reading := none
        cutWrites := j.writing.toList ++ j.cutWrites
        cutReads := j.reading.toList.map (⟨·, j.clock⟩) ++ j.cutReads }

/-- Enter an act, which takes one tick of the clock. -/
def note (j : Journal α) (act : Act α) : Journal α :=
  { j.enter act with clock := j.clock + 1 }

variable {j : Journal α}

theorem note_store {side : Race.Side} {access : Access} (opened : j.access? side = some access)
    (effect : α → α) :
    j.note (.store side effect) =
      { j with
        clock := j.clock + 1
        stores := ⟨access, side, j.clock, effect⟩ :: j.stores } := by
  simp only [note, enter, opened]

theorem note_closeWrite {access : Access} (opened : j.writing = some access) (value : α) :
    j.note (.closeWrite value) =
      { j with
        clock := j.clock + 1
        published := ⟨access, j.clock, j.count + 1, value⟩ :: j.published
        writing := none } := by
  simp only [note, enter, opened]

theorem note_closeRead {access : ReadAccess} (opened : j.reading = some access) :
    j.note .closeRead =
      { j with
        clock := j.clock + 1
        reads := ⟨access, j.clock⟩ :: j.reads
        reading := none } := by
  simp only [note, enter, opened]

end Journal

/-! ## What requests do -/

namespace Session

variable {α ρ : Type}

/-- Cell that the producer's handle has access to, or would get access to. -/
def writeCell (s : Session α) : Cell :=
  match s.handles with
  | some ⟨.held c, _⟩ => c
  | _ => s.buffer.word.back

/-- Cell that the consumer's handle has access to, or would get access to. -/
def readCell (s : Session α) : Cell :=
  match s.handles with
  | some ⟨_, .held c⟩ | some ⟨_, .leaked c⟩ => c
  | _ => s.buffer.word.front

/-- Starting a write opens an access unless one is to be resumed. -/
def startWrite (s : Session α) : List (Act α) :=
  match s.handles with
  | some ⟨.idle, _⟩ => [.openWrite s.writeCell]
  | _ => []

/-- Starting a read opens an access unless one is to be resumed. -/
def startRead (s : Session α) : List (Act α) :=
  match s.handles with
  | some ⟨_, .idle⟩ => [.openRead s.readCell]
  | _ => []

/-- What a request that got a certain reply did. -/
def acts (s : Session α) : Request α ρ → Reply α ρ → List (Act α)
  | .owner .connect, .done => [.connect]
  | .handles (.input (.write value)), .done =>
      s.startWrite ++ [.store .producer fun _ => value, .closeWrite value]
  | .handles (.input .start), .cell _ => s.startWrite
  | .handles (.writeGuard (.edit e)), .edited _ => [.store .producer fun value => (e.run value).2]
  | .handles (.writeGuard .finish), .done => [.closeWrite (s.buffer.load s.writeCell)]
  | .handles (.output .read), .value (some _) => s.startRead ++ [.closeRead]
  | .handles (.output .start), .entry (some _) => s.startRead
  | .handles (.readGuard (.edit e)), .edited _ => [.store .consumer fun value => (e.run value).2]
  | .handles (.readGuard .finish), .done => [.closeRead]
  | _, _ => []

/-- Enter what a request does in the journal. -/
def record [Inspect α] (j : Journal α) (s : Session α) (request : Request α ρ) : Journal α :=
  (s.acts request (s.step request).1).foldl Journal.note j

/-- Continue the journal of a session over further requests. -/
def journalFrom [Inspect α] : List (Request α ρ) → Session α → Journal α → Journal α
  | [], _, j => j
  | request :: rest, s, j => journalFrom rest (s.step request).2 (s.record j request)

/-- Journal of a session that answers requests in order. -/
def journal [Inspect α] (requests : List (Request α ρ)) (s : Session α) : Journal α :=
  journalFrom requests s .empty

/-- What holds of a session and its journal, and is kept by every request, holds after a run. -/
theorem journalFrom_induction [Inspect α] {motive : Journal α → Session α → Prop}
    (kept : ∀ {j s} (request : Request α ρ), motive j s →
      motive (s.record j request) (s.step request).2)
    (requests : List (Request α ρ)) {j : Journal α} {s : Session α} (start : motive j s) :
    motive (journalFrom requests s j) (run requests s) := by
  induction requests generalizing j s with
  | nil => exact start
  | cons request rest induction => exact induction (kept request start)

end Session

end Handover
