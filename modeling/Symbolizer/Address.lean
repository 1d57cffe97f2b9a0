import Symbolizer.Text.Hex

/-!
# Addresses

An address is a 64-bit word. Its written forms are a run of hexadecimal digits (in listings) and
the same behind `0x` (in logs and diagnostics). `ofDigits?` refuses a run as soon as its number no
longer fits, so that leading zeros never make an address too wide. `parse?` reads the form behind
`0x`, where one plus sign may stand before the digits, and `text` writes it.
-/

namespace Symbolizer

/-- A code address of the traced machine. -/
abbrev Address := UInt64

namespace Address

/-- The address with one more digit behind, unless that exceeds 64 bits. -/
def shiftIn? (a : Address) (c : Char) : Option Address :=
  let n := Text.Hex.shiftIn a.toNat c
  if h : n < UInt64.size then some (UInt64.ofNatLT n h) else none

/-- The address that a run of hexadecimal digits stands for. -/
def ofDigits? (digits : List Char) : Option Address :=
  digits.foldlM shiftIn? 0

/-- A numeral without the plus sign that may stand before it. -/
def unsigned : List Char → List Char
  | '+' :: digits => digits
  | digits => digits

/-- The address that `0x` and a numeral of at least one digit stand for (`parse_hex_address` in
symtrace). The grammar of block lines lets no plus sign through to here. -/
def parse? (text : String) : Option Address :=
  match text.toList with
  | '0' :: 'x' :: numeral =>
    let digits := unsigned numeral
    if digits.isEmpty || !digits.all Text.Hex.isDigit then none else ofDigits? digits
  | _ => none

/-- The form `0x` and the fewest lower-case digits. -/
def text (a : Address) : String :=
  "0x" ++ String.ofList (Text.Hex.ofNat a.toNat)

/-- The address after this one; there is none after the highest. -/
def next? (a : Address) : Option Address :=
  if h : a.toNat + 1 < UInt64.size then some (UInt64.ofNatLT (a.toNat + 1) h) else none

end Address

end Symbolizer
