/-!
# Inspection documents

What is shown of a value is a tree of lists, applied names and records.  The same tree has two
texts: on one line, or broken so that each item stands on a line of its own.  Broken items end with
a comma, and each level is indented by four spaces more than the one around it.
-/

namespace Handover

/-- How an inspection document is set out. -/
inductive Layout where
  /-- All on one line. -/
  | oneLine
  /-- Each item on a line of its own. -/
  | broken
  deriving DecidableEq

/-- What is shown of a value. -/
inductive Doc where
  /-- A text that is never broken. -/
  | atom (text : String)
  /-- A list of values. -/
  | list (items : List Doc)
  /-- A name applied to one value. -/
  | applied (name : String) (argument : Doc)
  /-- A named record; fields may be left out, which two dots in the last place tell. -/
  | record (name : String) (fields : List (String × Doc)) (omits : Bool)

namespace Doc

/-! ## On one line -/

mutual

/-- Text of a document on one line. -/
def oneLine : Doc → String
  | atom text => text
  | list items => "[" ++ ", ".intercalate (oneLineItems items) ++ "]"
  | applied name argument => name ++ "(" ++ argument.oneLine ++ ")"
  | record name fields omits =>
      name ++ " \x7b "
        ++ ", ".intercalate (oneLineFields fields ++ if omits then [".."] else []) ++ " \x7d"

/-- Texts of list items on one line. -/
def oneLineItems : List Doc → List String
  | [] => []
  | item :: rest => item.oneLine :: oneLineItems rest

/-- Texts of record fields on one line. -/
def oneLineFields : List (String × Doc) → List String
  | [] => []
  | (name, value) :: rest => (name ++ ": " ++ value.oneLine) :: oneLineFields rest

end

/-! ## Broken over lines -/

/-- Blank space in front of a line at some depth. -/
def indent (depth : Nat) : String :=
  String.ofList (List.replicate (4 * depth) ' ')

/-- Lines one level deeper than the brackets around them. -/
def enclose (depth : Nat) (opening : String) (lines : List String) (closing : String) : String :=
  opening ++ "\n"
    ++ String.join (lines.map fun line => indent (depth + 1) ++ line ++ "\n")
    ++ indent depth ++ closing

mutual

/-- Text of a document broken over lines, when its first line starts at some depth. -/
def broken (depth : Nat) : Doc → String
  | atom text => text
  | list [] => "[]"
  | list (item :: rest) => enclose depth "[" (brokenItems (depth + 1) (item :: rest)) "]"
  | applied name argument =>
      enclose depth (name ++ "(") [broken (depth + 1) argument ++ ","] ")"
  | record name fields omits =>
      enclose depth (name ++ " \x7b")
        (brokenFields (depth + 1) fields ++ if omits then [".."] else []) "\x7d"

/-- Texts of list items, each broken over lines. -/
def brokenItems (depth : Nat) : List Doc → List String
  | [] => []
  | item :: rest => (item.broken depth ++ ",") :: brokenItems depth rest

/-- Texts of record fields, each broken over lines. -/
def brokenFields (depth : Nat) : List (String × Doc) → List String
  | [] => []
  | (name, value) :: rest =>
      (name ++ ": " ++ value.broken depth ++ ",") :: brokenFields depth rest

end

/-- Text of a document in a layout. -/
def render (doc : Doc) : Layout → String
  | .oneLine => doc.oneLine
  | .broken => doc.broken 0

end Doc

end Handover
