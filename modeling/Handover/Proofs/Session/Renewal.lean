import Handover.Proofs.Session.Reconnection
import Handover.Proofs.Session.Resumption

/-!
# New handles at rest

While no access is open, new handles are as good as the old ones.  A word that a session can come to
is at rest then, even with both cells fresh, so that taking the handles back and giving out new ones
changes nothing at all, and no later answer tells that it was done.  While an access is open, giving
out new handles closes it and changes the word.
-/

namespace Handover

variable {α ρ : Type}

/-! ## Words at rest -/

/-- A word that goes with a journal is at rest if and only if no access is open. -/
theorem Journal.Coherent.atRest_eq_self_iff {j : Journal α} {w : Word}
    (coherent : j.Coherent w.fields) : w.atRest = w ↔ w.openCount = 0 := by
  constructor
  · intro same
    rw [← same, Word.openCount_atRest]
  · intro vacant
    apply Word.fields_injective
    rw [w.fields_atRest]
    exact Fields.atRest_eq_self vacant (coherent.settled vacant)

namespace Session

/-- Taking the handles back and giving out new ones. -/
def renewal : List (Request α ρ) :=
  [.owner .disconnect, .owner .connect]

/-! ## Sessions at rest -/

section

variable {j : Journal α} {s : Session α}

/-- New handles leave the buffer as it is if and only if no access is open. -/
theorem Accounted.connect_eq_self_iff (accounted : Accounted j s) :
    s.buffer.connect = s.buffer ↔ s.buffer.word.openCount = 0 := by
  rw [← accounted.coherent.atRest_eq_self_iff]
  constructor
  · intro same
    exact congrArg Buffer.word same
  · intro same
    rw [Buffer.connect, same]

variable [Inspect α]

/-- With handles out and no access open, a renewal is carried out and leaves all as it was. -/
theorem Accounted.renew (accounted : Accounted j s) (out : s.handles = some .fresh) :
    run (renewal : List (Request α ρ)) s = s ∧
      (asked (renewal : List (Request α ρ)) s).map (·.outcome) =
        [(.done, s.buffer), (.done, s.buffer)] := by
  have same : s.buffer.connect = s.buffer :=
    accounted.connect_eq_self_iff.mpr (accounted.vacant_of_fresh out)
  obtain ⟨b, handles⟩ := s
  cases out
  constructor
  · exact congrArg (Session.mk · (some .fresh)) same
  · exact congrArg (fun after => [((.done : Reply α ρ), b), (.done, after)]) same

/-! ## Runs -/

theorem asked_append (first second : List (Request α ρ)) (s : Session α) :
    asked (first ++ second) s = asked first s ++ asked second (run first s) := by
  induction first generalizing s with
  | nil => rfl
  | cons request rest induction => exact congrArg (_ :: ·) (induction _)

/-- Whatever was leaked and however often new handles were given out before, new handles leave the
buffer as it is if and only if no access is open.  So where handles are out and no access is open, a
run with a renewal is, but for the two answers to it, the run without: every request before and
after is answered as it was and leaves the same word and cells, and the session ends up the same. -/
theorem renewal_unseen (initial : α) (requests more : List (Request α ρ)) :
    let start := new (.new initial)
    let s := run requests start
    let before := (asked requests start).map (·.outcome)
    let later := (asked more s).map (·.outcome)
    (s.buffer.connect = s.buffer ↔ s.buffer.word.openCount = 0) ∧
      (s.handles = some .fresh →
        (asked (requests ++ more) start).map (·.outcome) = before ++ later ∧
          (asked (requests ++ renewal ++ more) start).map (·.outcome) =
            before ++ [(.done, s.buffer), (.done, s.buffer)] ++ later ∧
          run (requests ++ renewal ++ more) start = run (requests ++ more) start) := by
  intro start s before later
  have accounted : Accounted (journal requests start) s := accounted_journal initial requests
  refine ⟨accounted.connect_eq_self_iff, fun out => ?_⟩
  obtain ⟨same, answers⟩ := accounted.renew (ρ := ρ) out
  have resumes : run (requests ++ renewal) start = s := (run_append _ _ _).trans same
  refine ⟨?_, ?_, ?_⟩
  · rw [asked_append, List.map_append]
  · rw [asked_append, asked_append, List.map_append, List.map_append, answers, resumes]
  · rw [run_append, resumes, run_append]

/-- A read is cut short during which a newer value was published, so that both cells are fresh at
rest.  The two reads that follow do not show whether the handles were renewed there. -/
theorem renewal_unseen_interrupted :
    let s := run interrupted (new (.new 0))
    let reads : List (Request Nat Unit) := [.handles (.output .read), .handles (.output .read)]
    s.handles = some .fresh ∧ s.buffer = ⟨⟨25⟩, ⟨1, 2⟩⟩ ∧
      run (interrupted ++ renewal ++ reads) (new (.new 0)) =
        run (interrupted ++ reads) (new (.new 0)) ∧
      (asked reads s).map (·.outcome) =
        [(.value (some 1), ⟨⟨16⟩, ⟨1, 2⟩⟩), (.value (some 2), ⟨⟨0⟩, ⟨1, 2⟩⟩)] := by
  have out : (run interrupted (new (.new 0))).handles = some .fresh := by decide +kernel
  exact ⟨out, rfl, ((renewal_unseen 0 interrupted _).2 out).2.2, rfl⟩

end

end Session

end Handover
