/-!
# Hexadecimal numerals

Numerals are lists of digit characters, of either case and any length. `value` is the number a
numeral stands for, `ofNat` the numeral a number is written as: lower case, and no leading zero but
that of zero itself.
-/

namespace Symbolizer.Text.Hex

/-- ASCII hexadecimal digits only; no other decimal digit of Unicode counts. -/
def isDigit (c : Char) : Bool :=
  ('0' ≤ c && c ≤ '9') || ('a' ≤ c && c ≤ 'f') || ('A' ≤ c && c ≤ 'F')

/-- The number a digit stands for; meaningful for digits only. -/
def digitValue (c : Char) : Nat :=
  if c ≤ '9' then c.toNat - '0'.toNat
  else if c ≤ 'F' then c.toNat - 'A'.toNat + 10
  else c.toNat - 'a'.toNat + 10

/-- The number before it, with one more digit behind. -/
def shiftIn (n : Nat) (c : Char) : Nat :=
  16 * n + digitValue c

/-- The number a numeral stands for, read from its most significant digit. -/
def value (digits : List Char) : Nat :=
  digits.foldl shiftIn 0

/-- The shortest numeral of a number, in lower case. -/
def ofNat (n : Nat) : List Char :=
  Nat.toDigits 16 n

theorem value_nil : value [] = 0 := rfl

theorem value_append_singleton (digits : List Char) (c : Char) :
    value (digits ++ [c]) = shiftIn (value digits) c := by
  simp [value]

end Symbolizer.Text.Hex
