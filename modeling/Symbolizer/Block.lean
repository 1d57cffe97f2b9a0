import Symbolizer.Address
import Symbolizer.Text.Scan

/-!
# Block records

The emulator logs each block it runs by a line such as
`[2026-01-18T09:33:55Z INFO  rv_emu::cpu] Block execution: 0x8000377c to 0x8000379c`.

What stands before `INFO` may itself look like the rest of such a line, so the grammar is ambiguous
from its left end. From its right end it is not: words and numbers are apart by runs of blanks, and
none of them begins or ends with one. `BlockLine.ofReversed?` therefore reads a line backwards; only
the place where the time stamp ends is then open, and `stamp?` settles it for the shortest one.

In symtrace the grammar is `BLOCK_LINE_RE`, a block is a `BlockExecution`, `Block.parse?` is
`parse_block_line`, and `Block.componentTag` is `COMPONENT_TAG`.
-/

namespace Symbolizer

/-- The parts of a block line, its addresses as they are written: `0x` and digits. -/
structure BlockLine where
  timestamp : String
  start : String
  stop : String
  deriving DecidableEq, Repr

/-- A block that was run. Its start is absent if it does not fit an address; the stop is kept as it
is written. -/
structure Block where
  timestamp : String
  start : Option Address
  stop : String
  deriving DecidableEq, Repr, Inhabited

namespace Block

/-- The component that logs block executions. -/
def componentTag : String := "rv_emu::cpu"

/-- The component as its log lines close their bracket with it. -/
def componentWord : List Char := componentTag.toList ++ [']']

/-- What a block line says between the component and the first address. -/
def eventWord : List Char := "Block execution:".toList

end Block

namespace BlockLine

/-- The shortest time stamp in a bracket's text `lead`, which blanks must close off: the text
without them, or else one character of a text of blanks. -/
def stampIn? (stamp blanks : List Char) : Option (List Char) :=
  match stamp, blanks with
  | [], c :: _ :: _ => some [c]
  | [], _ => none
  | stamp, _ => some stamp

/-- The time stamp in what precedes `INFO`, given backwards. It holds no line feed. -/
def stamp? (lead : List Char) : Option (List Char) := do
  let (blanks, rest) ← Text.Scan.takeSome? Text.isBlank lead
  match rest.reverse with
  | '[' :: stamp => (stampIn? stamp blanks.reverse).filter ('\n' ∉ ·)
  | _ => none

/-- A written address, read backwards, as it is written, and the rest. -/
def address? (cs : List Char) : Option (List Char × List Char) := do
  let (digits, rest) ← Text.Scan.digits? cs
  let rest ← Text.Scan.word? ['x', '0'] rest
  some ('0' :: 'x' :: digits.reverse, rest)

/-- The rest, read backwards, behind blanks, a word and blanks. -/
def wordBetween? (word : List Char) (cs : List Char) : Option (List Char) :=
  Text.Scan.blanks? cs >>= Text.Scan.word? word.reverse

/-- The block line over the given characters, last one first, if they make up one. -/
def ofReversed? (line : List Char) : Option BlockLine := do
  let (stop, rest) ← address? (line.dropWhile Text.isBlank)
  let rest ← wordBetween? "to".toList rest
  let (start, rest) ← Text.Scan.blanks? rest >>= address?
  let rest ← wordBetween? Block.eventWord rest
  let rest ← wordBetween? Block.componentWord rest
  let rest ← wordBetween? "INFO".toList rest
  let stamp ← stamp? rest
  some {
    timestamp := String.ofList stamp
    start := String.ofList start
    stop := String.ofList stop }

/-- The block line that a text is, if it is one. -/
def parse? (line : String) : Option BlockLine :=
  ofReversed? line.toList.reverse

/-- The block that a block line records. -/
def block (l : BlockLine) : Block where
  timestamp := l.timestamp
  start := Address.parse? l.start
  stop := l.stop

end BlockLine

/-- The block that a line of a log records, if it records one. -/
def Block.parse? (line : String) : Option Block :=
  (BlockLine.parse? line).map BlockLine.block

end Symbolizer
