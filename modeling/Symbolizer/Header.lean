import Symbolizer.Address
import Symbolizer.Text.Scan

/-!
# Function headers

A disassembly listing announces each function by a line such as `00000000800090b0 <userret>:`:
an address in hexadecimal, blanks, and a name between angle brackets that a colon follows. Blanks
may stand at both ends. The name is free of `>` and not empty; all else may occur in it.

`HeaderLine.parse?` recognises the shape, whatever the number of digits. `Header.parse?` also asks
that the address fit an `Address`.

In symtrace the shape is `FUNC_HEADER_RE`, a header is a `FunctionHeader`, `Header.parse?` is
`parse_function_header`, and `Header.sampleText` is `HEADER_EXAMPLE`.
-/

namespace Symbolizer

/-- The parts of a line in the shape of a header, the address as it is written. -/
structure HeaderLine where
  digits : String
  name : String
  deriving DecidableEq, Repr

/-- A function's start and name. -/
structure Header where
  address : Address
  name : String
  deriving DecidableEq, Repr, Inhabited

/-- The header line over the given characters, if they make up one. -/
def HeaderLine.ofChars? (line : List Char) : Option HeaderLine := do
  let (digits, rest) ← Text.Scan.digits? (line.dropWhile Text.isBlank)
  let rest ← Text.Scan.blanks? rest
  let rest ← Text.Scan.word? ['<'] rest
  let (name, rest) ← Text.Scan.takeSome? (· ≠ '>') rest
  let rest ← Text.Scan.word? ['>', ':'] rest
  if rest.all Text.isBlank then
    some { digits := String.ofList digits, name := String.ofList name }
  else
    none

/-- The header line that a text is, if it is one. -/
def HeaderLine.parse? (line : String) : Option HeaderLine :=
  ofChars? line.toList

/-- The header of a line whose address fits. -/
def HeaderLine.header? (l : HeaderLine) : Option Header :=
  (Address.ofDigits? l.digits.toList).map fun address => { address, name := l.name }

/-- The header on a line of a listing, if there is one. -/
def Header.parse? (line : String) : Option Header :=
  (HeaderLine.parse? line).bind HeaderLine.header?

/-- A header that a user can be shown. -/
def Header.sampleText : String := "00000000800090b0 <userret>:"

end Symbolizer
