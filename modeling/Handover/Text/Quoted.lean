import Handover.Text.Printable

/-!
# Quoted text

A text is shown between double quotes.  Quotes and backslashes inside it, and the characters that
have no picture of their own, are written as escapes; every other character stands for itself.
-/

namespace Handover.Text

/-- Escape that names a character by its code point, in the fewest hexadecimal digits. -/
def codePointEscape (c : Char) : String :=
  "\\u\x7b" ++ String.ofList (Nat.toDigits 16 c.toNat) ++ "\x7d"

/-- A character as it is written inside a quoted text. -/
def escape (c : Char) : String :=
  match c with
  | '\x00' => "\\0"
  | '\t' => "\\t"
  | '\n' => "\\n"
  | '\r' => "\\r"
  | '"' => "\\\""
  | '\\' => "\\\\"
  | _ => if isPrintable c then c.toString else codePointEscape c

/-- A text between double quotes. -/
def quoted (text : String) : String :=
  "\"" ++ String.join (text.toList.map escape) ++ "\""

end Handover.Text
