import Handover.Inspect.Doc
import Handover.Text.Quoted
import Handover.Word.Basic

/-!
# Inspection of values

Which document is shown of a payload value, of a cell and of the state word.  The contents of the
cells never appear in what is shown of a buffer or a handle, since the other side may be using them;
only a guard shows the value it gives access to.
-/

namespace Handover

/-- Values that can be shown. -/
class Inspect (α : Type) where
  /-- What is shown of a value. -/
  doc : α → Doc

export Inspect (doc)

instance : Inspect Bool where
  doc holds := .atom (if holds then "true" else "false")

instance : Inspect Nat where
  doc n := .atom n.repr

instance : Inspect Int64 where
  doc n := .atom n.toInt.repr

instance : Inspect String where
  doc text := .atom (Text.quoted text)

instance {α : Type} [Inspect α] : Inspect (List α) where
  doc items := .list (items.map doc)

instance {α : Type} [Inspect α] : Inspect (Option α) where
  doc
    | none => .atom "None"
    | some value => .applied "Some" (doc value)

instance : Inspect Cell where
  doc c := doc c.index

instance : Inspect Word where
  doc w :=
    .record "State"
      [("active", doc w.back),
        ("users", doc w.openCount),
        ("full", doc [w.isFresh .first, w.isFresh .second])]
      false

/-- What is shown of a buffer whose word is given. -/
def Word.bufferDoc (w : Word) : Doc :=
  .record "DoubleBuffer" [("state", doc w)] true

/-- What is shown of a producer's handle. -/
def Word.inputDoc (w : Word) (writing : Bool) : Doc :=
  .record "Input" [("state", doc w), ("writing", doc writing)] false

/-- What is shown of a consumer's handle. -/
def Word.outputDoc (w : Word) (reading : Option Cell) : Doc :=
  .record "Output" [("state", doc w), ("reading", doc reading)] false

/-- What is shown of a guard over a cell with the given value. -/
def Cell.guardDoc {α : Type} [Inspect α] (c : Cell) (name : String) (value : α) : Doc :=
  .record name [("cell", doc c), ("value", doc value)] false

end Handover
