import Handover.Word.Basic

/-!
# Words as decimal numerals

A word is written in decimal without sign or leading zeros.  A reader may put a plus sign in front,
and any number of leading zeros; a numeral of 2^64 or more names no word.
-/

namespace Handover.Word

/-- Decimal numeral of a word. -/
def decimal (w : Word) : String :=
  Nat.repr w.bits.toNat

/-- Value of a decimal digit. -/
def digitValue? (c : Char) : Option Nat :=
  if c.isDigit then some (c.toNat - '0'.toNat) else none

/-- Continue a number with further decimal digits, and refuse any other character. -/
def continueDigits? : Nat → List Char → Option Nat
  | value, [] => some value
  | value, c :: rest => do
      let digit ← digitValue? c
      continueDigits? (10 * value + digit) rest

/-- Number written by one or more decimal digits. -/
def readDigits? : List Char → Option Nat
  | [] => none
  | digits => continueDigits? 0 digits

/-- Word named by a decimal numeral. -/
def ofDecimal? (text : String) : Option Word := do
  let value ← match text.toList with
    | '+' :: digits => readDigits? digits
    | digits => readDigits? digits
  if value < UInt64.size then some ⟨value.toUInt64⟩ else none

end Handover.Word
