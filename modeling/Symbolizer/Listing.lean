import Symbolizer.Diagnostic
import Symbolizer.Failure
import Symbolizer.Source
import Symbolizer.SymbolTable

/-!
# Listings

Reading a disassembly listing from its file gives the table of its functions. Every line is read
before the table is built, so a fault anywhere in the listing outweighs its lack of headers.

In symtrace `Listing.load` is `from_disassembly`.
-/

namespace Symbolizer

namespace Listing

/-- The values before the first error, and that error. -/
def untilError {ε α : Type} (items : List (Except ε α)) : List α × Option ε :=
  go [] items
where
  /-- Continues behind the values `before`, given backwards. -/
  go (before : List α) : List (Except ε α) → List α × Option ε
    | [] => (before.reverse, none)
    | .error e :: _ => (before.reverse, some e)
    | .ok a :: items => go (a :: before) items

/-- The diagnostic for a line in the shape of a header whose address does not fit. -/
def oversized? (l : HeaderLine) : Option Diagnostic :=
  if l.header?.isNone then some (.oversizedHeader l) else none

/-- The diagnostic, if any, that a line of a listing calls for. -/
def diagnostic? (line : String) : Option Diagnostic :=
  (HeaderLine.parse? line).bind oversized?

/-- The table over the lines of a listing, and what there is to tell of them. -/
def ofLines (lines : List String) : SymbolTable × List Diagnostic :=
  let headerLines := lines.filterMap HeaderLine.parse?
  (.ofHeaders (headerLines.filterMap HeaderLine.header?), headerLines.filterMap oversized?)

/-- The table over all lines of the listing at `path`, one of which must be a header, and what there
is to tell. -/
def ofAllLines (path : String) (lines : List String) :
    Except Failure SymbolTable × List Diagnostic :=
  let (table, told) := ofLines lines
  match table.lowest? with
  | none => (.error (.noHeaders path), told)
  | some lowest => (.ok table, told ++ [.tableBuilt path table.size lowest])

/-- The table of the listing at `path`, and what there is to tell. -/
def load (files : Files) (path : String) : Except Failure SymbolTable × List Diagnostic :=
  match files path with
  | .error fault => (.error (.cannotOpen path fault), [])
  | .ok source =>
    match untilError source.items with
    | (lines, some fault) => (.error (.cannotRead path fault), lines.filterMap diagnostic?)
    | (lines, none) => ofAllLines path lines

end Listing

end Symbolizer
