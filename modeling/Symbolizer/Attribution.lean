import Symbolizer.Block
import Symbolizer.SymbolTable

/-!
# Attributions

An attribution is a block line of a log together with the function that holds the block's start. Its
text is the line itself, a space and the function's name.

In symtrace an attribution is an `AnnotatedLine`, `ofLine?` is `annotate_line`, and `unknownName` is
`UNKNOWN_FUNCTION`.
-/

namespace Symbolizer

/-- A block line and the function it starts in, if one is known. -/
structure Attribution where
  line : String
  block : Block
  function : Option String
  deriving DecidableEq, Repr

namespace Attribution

/-- What stands for the name of a function that is not known. -/
def unknownName : String := "UNKNOWN"

/-- The attribution of a line, if it is a block line. -/
def ofLine? (t : SymbolTable) (line : String) : Option Attribution :=
  (Block.parse? line).map fun block =>
    { line, block, function := block.start.bind t.nameAt? }

/-- Whether the function is known. -/
def isResolved (a : Attribution) : Bool := a.function.isSome

/-- The name of the function, or what stands for it. -/
def name (a : Attribution) : String := a.function.getD unknownName

/-- The line with the function behind it. -/
def text (a : Attribution) : String :=
  a.line ++ " " ++ a.name

/-- The texts that an attribution is written in, with the end of its line. -/
def pieces (a : Attribution) : List String := [a.line, " ", a.name, "\n"]

theorem join_pieces (a : Attribution) : String.join a.pieces = a.text ++ "\n" := by
  simp [pieces, text, String.join]

end Attribution

end Symbolizer
