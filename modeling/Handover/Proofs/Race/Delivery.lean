import Handover.Proofs.Race.Exclusion
import Handover.Proofs.Race.History

/-!
# Delivery in order

Every read access delivers the value of one publication that came before it, and the numbers of
these publications increase from one access to the next: nothing is delivered twice or out of order,
and nothing that was written without being published.  All answers to an access that was leaked and
resumed are the same value.
-/

namespace Handover.Race

variable {α : Type}

/-- Cell whose value the consumer has spent: something else may have been left in it. -/
def ReadPhase.spent : ReadPhase α → Option Cell
  | releasing c _ => some c
  | idle | leaked _ | entering _ | exchanging _ _ | stopped _ => none

namespace History

variable {h : History α} {b after : Buffer α} {writer : WritePhase α} {reader : ReadPhase α}
  {action : Action}

/-! ## Flags -/

theorem Tally.write {next : WritePhase α} (tally : h.Tally b.word.fields reader.openCell)
    (coherent : Coherent b.word.fields writer reader)
    (move : WriteMove b writer after next action) :
    (h.recordWrite b writer action).Tally after.word.fields reader.openCell := by
  cases move with
  | look same stays =>
      rw [same]
      exact tally
  | enter began word value cells fills =>
      rw [word]
      exact tally.entered
  | resume began word value cells fills =>
      rw [word]
      exact tally
  | prepare began same goes =>
      rw [same]
      exact tally
  | @publish c addend answer began word cells goes =>
      obtain rfl : c = b.word.back := coherent.writer.openCell (congrArg WritePhase.openCell began)
      rw [word, began]
      refine tally.publish ?_ _
      intro reading
      exact Fields.front_ne_back (coherent.reader.openCell reading).1.symm
  | present began vacant fresh word cells goes =>
      rw [(coherent.closed vacant).2] at tally ⊢
      rw [word]
      exact tally.presented ((b.word.fresh_fields _).trans fresh)
  | miss began missed same goes =>
      rw [same]
      exact tally

theorem Tally.look {next : ReadPhase α} (tally : h.Tally b.word.fields reader.openCell)
    (same : after.word = b.word) (stays : next.openCell = reader.openCell) (values : List α) :
    (h.hear values).Tally after.word.fields next.openCell := by
  rw [same, stays]
  exact tally.hear values

theorem Tally.read {next : ReadPhase α} {told : List (Answer α)}
    (tally : h.Tally b.word.fields reader.openCell)
    (coherent : Coherent b.word.fields writer reader)
    (move : ReadMove b reader after next told action) :
    (h.recordRead next told action).Tally after.word.fields next.openCell := by
  have closing := move.openCell
  cases move with
  | look began same goes quiet tells => exact tally.look (congrArg Buffer.word same) closing _
  | lookOn began word quiet tells uses => exact tally.look word closing _
  | pollEmpty began empty same goes tells => exact tally.look (congrArg Buffer.word same) closing _
  | pollReady began ready same goes silent => exact tally.look (congrArg Buffer.word same) closing _
  | enter began word uses tells =>
      have fresh := coherent.reader
      rw [began] at fresh tally
      rw [recordRead, uses.openCell, word]
      exact tally.entered.openRead fresh _
  | @release c answer began word cells goes silent =>
      have stands := coherent.reader
      rw [began] at stands tally
      obtain ⟨rfl, fresh⟩ : c = b.word.fields.front ∧ b.word.fields.fresh.get c = true := stands
      rw [closing, word]
      exact tally.closeRead fresh
  | turn began vacant fresh drained word cells goes silent =>
      have none_open := (coherent.closed vacant).2
      rw [none_open] at tally closing
      rw [closing, word]
      refine (tally.turned ?_ ?_).hear _
      · exact (b.word.fresh_fields _).trans fresh
      · exact (b.word.fresh_fields _).trans drained
  | miss began missed same goes silent => exact tally.look (congrArg Buffer.word same) closing _

/-! ## Values -/

/-- A fresh cell contains the value of the publication made in it, unless the producer is at work on
the cell again or the consumer has spent the value. -/
def Stored (h : History α) (b : Buffer α) (filling spent : Option Cell) : Prop :=
  ∀ c, b.word.fields.fresh.get c = true → filling ≠ some c → spent ≠ some c →
    h.valueAt (h.latest.get c) = some (b.load c)

namespace Stored

variable {filling spent : Option Cell}

theorem load_set_of_ne {c d : Cell} {value : α} (cells : after.cells = b.cells.set value d)
    (other : some d ≠ some c) : after.load c = b.load c := by
  rw [Buffer.load, cells]
  exact Cells.get_set_of_ne _ _ fun same => other (congrArg some same.symm)

theorem load_same (cells : after.cells = b.cells) (c : Cell) : after.load c = b.load c :=
  congrArg (Cells.get · c) cells

theorem hear (stored : h.Stored b filling spent) (values : List α) :
    (h.hear values).Stored b filling spent := by
  intro c fresh elsewhere kept
  rw [valueAt_hear, latest_hear]
  exact stored c fresh elsewhere kept

/-- The producer fills a cell: what the other cell contains stays. -/
theorem fill {c : Cell} {value : α} (stored : h.Stored b filling spent)
    (before : ∀ d, filling = some d → d = c) (cells : after.cells = b.cells.set value c)
    (flags : after.word.fields.fresh = b.word.fields.fresh) : h.Stored after (some c) spent := by
  intro d fresh elsewhere kept
  rw [flags] at fresh
  rw [load_set_of_ne cells elsewhere]
  exact stored d fresh (fun same => elsewhere (congrArg some (before d same).symm)) kept

/-- What the producer publishes is what the cell contains, and it works on no other cell. -/
theorem publish {f : Fields} (stored : h.Stored b (some f.back) spent)
    (before : b.word.fields = f) (word : after.word.fields = f.published)
    (cells : after.cells = b.cells) :
    (h.publish f.back (b.load f.back)).Stored after none spent := by
  intro c fresh _ kept
  rw [load_same cells]
  by_cases same : c = f.back
  · have number : (h.publish f.back (b.load f.back)).latest.get f.back = h.count + 1 :=
      Cells.get_set_self _ _ _
    rw [same]
    exact (congrArg _ number).trans (valueAt_publish_self _ _)
  · have number : (h.publish f.back (b.load f.back)).latest.get c = h.latest.get c :=
      Cells.get_set_of_ne _ _ same
    rw [word, Fields.get_fresh_published_of_ne same, ← before] at fresh
    refine (congrArg _ number).trans (valueAt_publish_of_some (stored c fresh ?_ kept))
    exact fun filled => same (Option.some.inj filled).symm

theorem write {next : WritePhase α} (stored : h.Stored b writer.openCell spent)
    (coherent : Coherent b.word.fields writer reader)
    (move : WriteMove b writer after next action) :
    (h.recordWrite b writer action).Stored after next.openCell spent := by
  cases move with
  | look same stays =>
      rw [same, stays]
      exact stored
  | enter began word value cells fills =>
      rw [began] at stored
      rw [fills.openCell]
      refine stored.fill ?_ cells (by rw [word]; rfl)
      rintro d ⟨⟩
  | resume began word value cells fills =>
      rw [began] at stored
      rw [fills.openCell]
      refine stored.fill ?_ cells (by rw [word])
      rintro d ⟨⟩
      rfl
  | prepare began same goes =>
      rw [began] at stored
      rw [same, goes]
      exact stored
  | @publish c addend answer began word cells goes =>
      obtain rfl : c = b.word.fields.back :=
        coherent.writer.openCell (congrArg WritePhase.openCell began)
      have closed : next.openCell = none := by
        rcases goes with ⟨-, rfl⟩ | ⟨-, rfl⟩ <;> rfl
      rw [began] at stored ⊢
      rw [closed]
      exact stored.publish rfl word cells
  | present began vacant there word cells goes =>
      rw [began] at stored
      rw [goes]
      intro c fresh _ kept
      have other : c ≠ b.word.fields.front := by
        rintro rfl
        rw [word, Fields.get_fresh_presented] at fresh
        cases fresh
      rw [word, Fields.get_fresh_presented_of_ne other] at fresh
      rw [load_same cells]
      exact stored c fresh (Option.some_ne_none c).symm kept
  | miss began missed same goes =>
      rw [began] at stored
      rw [same, goes]
      exact stored

/-- The consumer spends the value of a cell: what the other cell contains stays. -/
theorem use {c : Cell} {next : ReadPhase α} {told : List (Answer α)}
    (stored : h.Stored b filling none) (uses : ReadPhase.Uses c b after next told)
    (flags : after.word.fields.fresh = b.word.fields.fresh) :
    h.Stored after filling next.spent := by
  intro d fresh elsewhere kept
  rw [flags] at fresh
  have found := stored d fresh elsewhere (Option.some_ne_none d).symm
  rcases uses.cells with ⟨cells, rfl⟩ | ⟨value, answer, cells, rfl⟩
  · rw [load_same cells]
    exact found
  · rw [load_set_of_ne cells kept]
    exact found

/-- A spent cell is given up, and is not fresh any more. -/
theorem closeRead {c : Cell} {f : Fields} (stored : h.Stored b filling (some c))
    (before : b.word.fields = f) (word : after.word.fields = f.released c)
    (cells : after.cells = b.cells) : h.closeRead.Stored after filling none := by
  intro d fresh elsewhere _
  have other : d ≠ c := by
    rintro rfl
    rw [word, Fields.get_fresh_released] at fresh
    cases fresh
  rw [word, Fields.get_fresh_released_of_ne other, ← before] at fresh
  rw [valueAt_closeRead, latest_closeRead, load_same cells]
  exact stored d fresh elsewhere fun spent => other (Option.some.inj spent).symm

theorem read {next : ReadPhase α} {told : List (Answer α)}
    (stored : h.Stored b filling reader.spent)
    (move : ReadMove b reader after next told action) :
    (h.recordRead next told action).Stored after filling next.spent := by
  cases move with
  | look began same goes quiet tells =>
      rw [began] at stored
      rw [same, goes]
      exact stored.hear _
  | lookOn began word quiet tells uses =>
      rw [began] at stored
      exact (stored.use uses (by rw [word])).hear _
  | pollEmpty began empty same goes tells =>
      rw [began] at stored
      rw [same, goes]
      exact stored.hear _
  | pollReady began ready same goes silent =>
      rw [began] at stored
      rw [same, goes]
      exact stored.hear _
  | enter began word uses tells =>
      rw [began] at stored
      rw [recordRead, uses.openCell]
      exact stored.use uses (by rw [word]; rfl)
  | release began word cells goes silent =>
      have kept : next.spent = none := by
        rcases goes with ⟨-, rfl⟩ | ⟨-, rfl⟩ <;> rfl
      rw [began] at stored
      rw [kept]
      exact stored.closeRead rfl word cells
  | turn began vacant fresh drained word cells goes silent =>
      have flags : after.word.fields.fresh = b.word.fields.fresh := by
        rw [word]
        rfl
      rw [began] at stored
      rw [goes]
      refine hear ?_ _
      intro c fresh elsewhere kept
      rw [flags] at fresh
      rw [load_same cells]
      exact stored c fresh elsewhere kept
  | miss began missed same goes silent =>
      rw [began] at stored
      rw [same, goes]
      exact stored.hear _

end Stored

/-! ## Answers -/

/-- Answers which all tell the value found in a cell deliver that value, each of them once. -/
theorem delivered?_of_tells {value : α} {told : List (Answer α)}
    (tells : ∀ answer ∈ told, answer = .entry (some value)) :
    told.filterMap Answer.delivered? = List.replicate told.length value := by
  induction told with
  | nil => rfl
  | cons answer told induction =>
      have rest := induction fun answer among => tells answer (List.mem_cons_of_mem _ among)
      obtain rfl := tells answer List.mem_cons_self
      exact congrArg (value :: ·) rest

/-- The read accesses that are recorded delivered publications in order, and they are what the known
answers of the consumer tell. -/
structure Answered (h : History α) (reading : Option Cell) (known : List (Answer α)) : Prop where
  delivered : ∀ access ∈ h.reads, access.number ≤ access.heard ∧ access.values ≠ [] ∧
    ∀ value ∈ access.values, h.valueAt access.number = some value
  ordered : h.reads.Pairwise fun later earlier => earlier.number < later.number
  told : h.reads.reverse.flatMap Reading.values = known.filterMap Answer.delivered?
  /-- All accesses but the newest are closed, and that one too if none is open. -/
  closed : ∀ access ∈ h.reads.tail, access.closed = true
  ended : reading = none → ∀ access ∈ h.reads, access.closed = true
  begun : reading ≠ none → h.reads ≠ []

namespace Answered

variable {reading : Option Cell} {known told : List (Answer α)}

theorem empty : (History.empty : History α).Answered none [] where
  delivered _ among := absurd among List.not_mem_nil
  ordered := .nil
  told := rfl
  closed _ among := absurd among List.not_mem_nil
  ended _ _ among := absurd among List.not_mem_nil
  begun opened := absurd rfl opened

theorem number_le (answered : h.Answered reading known) :
    ∀ access ∈ h.reads, access.number ≤ h.lastRead := by
  have ordered := answered.ordered
  unfold lastRead
  intro access among
  cases reads : h.reads with
  | nil =>
      rw [reads] at among
      cases among
  | cons newest older =>
      rw [reads] at among ordered
      rcases List.mem_cons.mp among with rfl | among
      · exact Nat.le_refl _
      · exact Nat.le_of_lt (List.rel_of_pairwise_cons ordered among)

/-- Answers that deliver nothing need not be recorded. -/
theorem quiet (answered : h.Answered reading known)
    (silent : told.filterMap Answer.delivered? = []) : h.Answered reading (known ++ told) := by
  refine ⟨answered.delivered, answered.ordered, ?_, answered.closed, answered.ended, answered.begun⟩
  rw [List.filterMap_append, silent, List.append_nil]
  exact answered.told

theorem publish (answered : h.Answered reading known) (c : Cell) (value : α) :
    (h.publish c value).Answered reading known := by
  refine ⟨?_, answered.ordered, answered.told, answered.closed, answered.ended, answered.begun⟩
  intro access among
  obtain ⟨before, some_told, values⟩ := answered.delivered access among
  exact ⟨before, some_told, fun value told => valueAt_publish_of_some (values value told)⟩

/-- A read access is opened to a cell which contains a publication that was not read yet. -/
theorem openRead {c : Cell} {value : α} (answered : h.Answered none known)
    (later : h.lastRead < h.latest.get c) (bounded : h.latest.get c ≤ h.count)
    (holds : h.valueAt (h.latest.get c) = some value)
    (tells : ∀ answer ∈ told, answer = .entry (some value)) (some_told : told ≠ []) :
    (h.openRead c (told.filterMap Answer.delivered?)).Answered (some c) (known ++ told) := by
  have heard := delivered?_of_tells tells
  constructor
  · intro access among
    rcases List.mem_cons.mp among with rfl | among
    · refine ⟨bounded, ?_, ?_⟩
      · rw [heard]
        simpa using some_told
      · intro found delivered
        rw [heard] at delivered
        rw [List.eq_of_mem_replicate delivered]
        exact holds
    · exact answered.delivered access among
  · refine List.pairwise_cons.mpr ⟨?_, answered.ordered⟩
    intro access among
    exact Nat.lt_of_le_of_lt (answered.number_le access among) later
  · have told := answered.told
    simp only [History.openRead, List.reverse_cons, List.flatMap_append, List.filterMap_append,
      told, List.flatMap_cons, List.flatMap_nil, List.append_nil]
  · exact answered.ended rfl
  · intro ended
    cases ended
  · exact fun _ => List.cons_ne_nil _ _

/-- Further answers to the open access tell the same value. -/
theorem hear {c : Cell} {value : α} (answered : h.Answered (some c) known)
    (holds : h.valueAt h.lastRead = some value)
    (tells : ∀ answer ∈ told, answer = .entry (some value)) :
    (h.hear (told.filterMap Answer.delivered?)).Answered (some c) (known ++ told) := by
  obtain ⟨published, latest, reads⟩ := h
  obtain ⟨delivered, ordered, answers, closed, ended, begun⟩ := answered
  cases reads with
  | nil => exact absurd rfl (begun (Option.some_ne_none c))
  | cons newest older =>
      constructor
      · intro access among
        rcases List.mem_cons.mp among with rfl | among
        · obtain ⟨before, some_told, values⟩ := delivered newest List.mem_cons_self
          refine ⟨before, List.append_ne_nil_of_left_ne_nil some_told _, ?_⟩
          intro found among
          rcases List.mem_append.mp among with among | among
          · exact values found among
          · rw [delivered?_of_tells tells] at among
            rw [List.eq_of_mem_replicate among]
            exact holds
        · exact delivered access (List.mem_cons_of_mem _ among)
      · exact List.pairwise_cons.mpr (List.pairwise_cons.mp ordered)
      · rw [List.filterMap_append, ← answers]
        simp [History.hear]
      · exact closed
      · intro ended
        cases ended
      · exact fun _ => List.cons_ne_nil _ _

theorem closeRead (answered : h.Answered reading known) : h.closeRead.Answered none known := by
  obtain ⟨published, latest, reads⟩ := h
  obtain ⟨delivered, ordered, answers, closed, ended, begun⟩ := answered
  cases reads with
  | nil =>
      refine ⟨delivered, ordered, answers, closed, ?_, fun opened => absurd rfl opened⟩
      exact fun _ _ among => absurd among List.not_mem_nil
  | cons newest older =>
      constructor
      · intro access among
        rcases List.mem_cons.mp among with rfl | among
        · exact delivered newest List.mem_cons_self
        · exact delivered access (List.mem_cons_of_mem _ among)
      · exact List.pairwise_cons.mpr (List.pairwise_cons.mp ordered)
      · rw [← answers]
        simp [History.closeRead]
      · exact closed
      · intro _ access among
        rcases List.mem_cons.mp among with rfl | among
        · rfl
        · exact closed access among
      · exact fun opened => absurd rfl opened

theorem write {next : WritePhase α} (answered : h.Answered reading known)
    (move : WriteMove b writer after next action) :
    (h.recordWrite b writer action).Answered reading known := by
  cases move with
  | publish began word cells goes =>
      rw [began]
      exact answered.publish _ _
  | look | enter | resume | prepare | present | miss => exact answered

theorem look (answered : h.Answered reading known)
    (silent : told.filterMap Answer.delivered? = []) :
    (h.hear (told.filterMap Answer.delivered?)).Answered reading (known ++ told) := by
  rw [silent, hear_nil]
  exact answered.quiet silent

theorem read {next : ReadPhase α} (answered : h.Answered reader.openCell known)
    (tally : h.Tally b.word.fields reader.openCell)
    (stored : h.Stored b writer.openCell reader.spent)
    (coherent : Coherent b.word.fields writer reader)
    (move : ReadMove b reader after next told action) :
    (h.recordRead next told action).Answered next.openCell (known ++ told) := by
  have closing := move.openCell
  cases move with
  | look began same goes silent tells =>
      rw [closing]
      refine answered.look ?_
      rw [tells, List.filterMap_cons_none silent]
      rfl
  | @lookOn c answer found began word silent tells uses =>
      have unread : c = b.word.fields.front ∧ b.word.fields.fresh.get c = true := by
        have stands := coherent.reader
        rw [began] at stands
        exact stands
      have holds : h.valueAt h.lastRead = some (b.load c) := by
        rw [began] at tally stored
        rw [tally.held c rfl]
        refine stored c unread.2 ?_ (Option.some_ne_none c).symm
        intro opened
        exact Fields.front_ne_back (unread.1.symm.trans (coherent.writer.openCell opened))
      have answer_silent : [answer].filterMap Answer.delivered? = [] := by
        rw [List.filterMap_cons_none silent]
        rfl
      rw [began] at answered
      have heard := (answered.quiet answer_silent).hear holds uses.told
      rw [List.append_assoc] at heard
      change (h.hear (told.filterMap Answer.delivered?)).Answered _ _
      rw [uses.openCell, tells, List.filterMap_cons_none silent]
      exact heard
  | pollEmpty began empty same goes tells =>
      rw [closing]
      refine answered.look ?_
      rw [tells]
      rfl
  | pollReady began ready same goes silent =>
      rw [closing]
      refine answered.look ?_
      rw [silent]
      rfl
  | enter began word uses tells =>
      have fresh := coherent.reader
      rw [began] at fresh answered tally stored
      have closed : none ≠ some b.word.fields.front := (Option.some_ne_none _).symm
      have holds := stored b.word.fields.front fresh
        (fun opened => Fields.front_ne_back (coherent.writer.openCell opened)) closed
      rw [recordRead, uses.openCell]
      exact answered.openRead (tally.unread _ fresh closed) (tally.latest_front_le fresh) holds
        uses.told tells
  | release began word cells goes silent =>
      rw [closing, silent, List.append_nil]
      exact answered.closeRead
  | turn began vacant fresh drained word cells goes silent =>
      rw [closing]
      refine answered.look ?_
      rw [silent]
      rfl
  | miss began missed same goes silent =>
      rw [closing]
      refine answered.look ?_
      rw [silent]
      rfl

end Answered

end History

/-! ## Runs -/

/-- A history agrees with the race of which it is the history. -/
structure Recorded (h : History α) (r : Race α) : Prop where
  coherent : r.IsCoherent
  tally : h.Tally r.buffer.word.fields r.consumer.phase.openCell
  stored : h.Stored r.buffer r.producer.phase.openCell r.consumer.phase.spent
  answered : h.Answered r.consumer.phase.openCell r.consumer.known

theorem fresh_initial (c : Cell) : Word.initial.atRest.fields.fresh.get c = false := by
  cases c <;> decide

theorem recorded_new (initial : α) (producer : List (Task (Put α)))
    (consumer : List (Task (Take α))) :
    Recorded .empty (new (.new initial) producer consumer) where
  coherent := isCoherent_new _ _ _
  tally := .empty fresh_initial
  stored c fresh := absurd ((fresh_initial c).symm.trans fresh) Bool.false_ne_true
  answered := .empty

theorem Recorded.step {h : History α} {r next : Race α} {event : Event} (recorded : Recorded h r)
    (move : Move r next event) : Recorded (h.record r event next) next := by
  have coherent := recorded.coherent.step move
  obtain ⟨before, tally, stored, answered⟩ := recorded
  cases move with
  | @producer action kept move =>
      refine ⟨coherent, ?_, ?_, ?_⟩ <;> rw [kept]
      · exact tally.write before move
      · exact stored.write before move
      · exact answered.write move
  | @consumer action told kept known move =>
      have told_eq : next.consumer.known.drop r.consumer.known.length = told := by
        rw [known, List.drop_left]
      have same : h.record r ⟨.consumer, action, r.buffer.word, next.buffer.word⟩ next =
          h.recordRead next.consumer.phase told action := by
        rw [← told_eq]
        rfl
      rw [same]
      refine ⟨coherent, tally.read before move, ?_, ?_⟩
      · rw [kept]
        exact stored.read move
      · rw [known]
        exact answered.read tally stored before move

theorem recorded_history [Add α] (initial : α) (producer : List (Task (Put α)))
    (consumer : List (Task (Take α))) (schedule : List Side) :
    Recorded (history schedule (new (.new initial) producer consumer))
      (run schedule (new (.new initial) producer consumer)).2 := by
  apply recount_induction (motive := fun r h => Recorded h r) _ _ schedule _
    (recorded_new initial producer consumer)
  intro r h side event next recorded moved
  exact recorded.step (recorded.coherent.move moved)

/-- The history of a run holds all its publications and read accesses.  Every read access delivered
the value of a publication made before it was opened, and at least once; the accesses delivered
publications with ever higher numbers; and what the consumer knows of values is what they delivered,
in this order. -/
theorem reads_deliver_in_order [Add α] (initial : α) (producer : List (Task (Put α)))
    (consumer : List (Task (Take α))) (schedule : List Side) :
    let start := new (.new initial) producer consumer
    let events := (run schedule start).1
    let r := (run schedule start).2
    let h := history schedule start
    (h.published.length = events.countP Event.publishes ∧
      h.reads.length = events.countP Event.opensRead) ∧
    (∀ access ∈ h.reads, access.number ≤ access.heard ∧ access.values ≠ [] ∧
      ∀ value ∈ access.values, h.valueAt access.number = some value) ∧
    (h.reads.Pairwise fun later earlier => earlier.number < later.number) ∧
    h.reads.reverse.flatMap Reading.values = r.consumer.known.filterMap Answer.delivered? := by
  intro start events r h
  obtain ⟨-, -, -, answered⟩ : Recorded h r := recorded_history initial producer consumer schedule
  have counts := recount_record_counts schedule (isCoherent_new (.new initial) producer consumer)
    History.empty
  refine ⟨⟨?_, ?_⟩, answered.delivered, answered.ordered, answered.told⟩
  · exact counts.1.trans (Nat.zero_add _)
  · exact counts.2.trans (Nat.zero_add _)

end Handover.Race
