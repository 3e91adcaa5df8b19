/-!
# Edits of a stored value

An edit is what a guard does in place to the value of its cell: it gives an answer and leaves a new
value behind.
-/

namespace Handover

/-- An edit of values of type `α` with answers of type `ρ`. -/
structure Edit (α ρ : Type) where
  /-- The answer and the value left behind. -/
  run : α → ρ × α

namespace Edit

variable {α ρ σ : Type}

/-- The same edit with its answer put into another form. -/
def map (f : ρ → σ) (e : Edit α ρ) : Edit α σ :=
  ⟨fun value => (f (e.run value).1, (e.run value).2)⟩

/-- Answer the value and leave it as it is. -/
def get : Edit α α :=
  ⟨fun value => (value, value)⟩

/-- Leave another value. -/
def set (value : α) : Edit α Unit :=
  ⟨fun _ => ((), value)⟩

/-- Answer the value and leave the default one. -/
def take [Inhabited α] : Edit α α :=
  ⟨fun value => (value, default)⟩

/-- Add to a number. -/
def add [Add α] (addend : α) : Edit α Unit :=
  ⟨fun value => ((), value + addend)⟩

/-- Put an item at the end of a list. -/
def push (item : α) : Edit (List α) Unit :=
  ⟨fun items => ((), items ++ [item])⟩

/-- Answer the last item of a list, if there is one, and leave the others. -/
def pop : Edit (List α) (Option α) :=
  ⟨fun items => (items.getLast?, items.dropLast)⟩

/-- Put a text at the end of a text. -/
def append (suffix : String) : Edit String Unit :=
  ⟨fun text => ((), text ++ suffix)⟩

/-- Answer the last character of a text, if there is one, and leave the others. -/
def dropLast : Edit String (Option Char) :=
  ⟨fun text => (text.toList.getLast?, String.ofList text.toList.dropLast)⟩

end Edit

end Handover
