import Handover.Word.Basic

/-!
# Atomic accesses

Each function of this module is one indivisible access to the state word: it takes the word that
was found and gives the word that is left, together with what the accessing side learns from it.
An access that finds its rules broken has already changed the word when it stops.

A side that closes an access may come to owe an exchange, which is a separate access made later.  It
takes place only if the word is still the one that the side left, and is never tried again.
-/

namespace Handover

/-- An exchange of one word for another which a side still has to attempt. -/
structure Exchange where
  /-- The word that has to be found. -/
  expected : Word
  /-- The word put in its place. -/
  desired : Word
  deriving DecidableEq

namespace Exchange

/-- Attempt the exchange, and tell whether it took place. -/
def attempt (x : Exchange) (w : Word) : Word × Bool :=
  if w = x.expected then (x.desired, true) else (w, false)

theorem attempt_expected (x : Exchange) : x.attempt x.expected = (x.desired, true) := by
  simp [attempt]

theorem attempt_of_ne (x : Exchange) {w : Word} (distinct : w ≠ x.expected) :
    x.attempt w = (w, false) := by
  simp [attempt, distinct]

end Exchange

namespace Word

/-! ## Exchanges -/

/-- Exchange owed by a producer that leaves this word: with nobody inside, it presents what it just
published. -/
def owedByProducer (w : Word) : Option Exchange :=
  if w.openCount = 0 then some ⟨w, w.presented⟩ else none

/-- Exchange owed by a consumer that leaves this word: with nobody inside, it turns the cells if a
value was published while it was reading. -/
def owedByConsumer (w : Word) : Option Exchange :=
  if w.openCount = 0 ∧ w.isFresh w.back then some ⟨w, w.turned⟩ else none

/-! ## Accesses of the producer -/

/-- Open a write access to the back cell. -/
def enterWrite (w : Word) : Word × Except Fault Cell :=
  (w.entered, if w.openCount < 2 then .ok w.back else .error .crowded)

/-- Close a write access by an addend that was computed from an earlier word. -/
def publish (w : Word) (addend : UInt64) : Word × Except Fault (Option Exchange) :=
  let left : Word := ⟨w.bits + addend⟩
  (left, if left.isFresh left.back then .ok left.owedByProducer else .error .unpublished)

/-! ## Accesses of the consumer -/

/-- Open a read access to the front cell. -/
def enterRead (w : Word) : Word × Except Fault Cell :=
  let left := w.entered
  (left,
    if 2 < left.openCount then .error .crowded
    else if left.isReady then .ok left.front
    else .error .nothingToRead)

/-- Close a read access to the cell with the given flag, which is fresh no more. -/
def release (w : Word) (flag : UInt64) : Word × Except Fault (Option Exchange) :=
  let left : Word := ⟨w.bits - (flag ||| oneAccess)⟩
  (left,
    if w.hasFlag flag ∧ 0 < w.openCount then .ok left.owedByConsumer else .error .notReading)

end Word

end Handover
