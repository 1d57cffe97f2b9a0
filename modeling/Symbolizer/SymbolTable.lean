import Symbolizer.Layout

/-!
# Symbol tables

A symbol table holds extents in the order of their starts and answers which of them holds an
address. The only candidate is the last extent that starts at or below the address; a binary search
finds it (`boundary`), and membership decides. The search halves the stretch in which the candidate
can lie.

`find?` searches the starts, which the table keeps apart for that; `Extent.findIn?` answers the same
question over a bare array of extents.

In symtrace a table is a `FunctionIndex`, made by `from_ranges` (`ofOrdered`) or `from_lines`
(`ofLines`). `find?` is its `lookup`, `nameAt?` its `find_function_name` and `lowest?` its
`lowest_start`. The free `find_function_name` gives the name of what `Extent.findIn?` finds.
-/

namespace Symbolizer

/-! ## Binary search -/

/-- How many elements of `xs` satisfy `p`, provided that those that do come before all others. -/
def boundary {α : Type} (xs : Array α) (p : α → Bool) : Nat :=
  search 0 xs.size (Nat.le_refl _)
where
  /-- The point between `lo`, before which all satisfy `p`, and `hi`, from which none does. -/
  search (lo hi : Nat) (hhi : hi ≤ xs.size) : Nat :=
    if h : lo < hi then
      let mid := lo + (hi - lo) / 2
      have hmid : mid < xs.size := by omega
      if p xs[mid] then search (mid + 1) hi hhi else search lo mid (by omega)
    else lo
  termination_by hi - lo

/-! ## Tables -/

/-- The extent of `es` that holds `a`, when `es` are in order. -/
def Extent.findIn? (es : Array Extent) (a : Address) : Option Extent :=
  match boundary es (·.start ≤ a) with
  | 0 => none
  | i + 1 => es[i]?.filter (a ∈ ·)

/-- Extents in the order of their starts, with the starts by themselves. -/
structure SymbolTable where
  extents : Array Extent
  starts : Array Address
  starts_eq : starts = extents.map (·.start)
  ordered : Extent.Ordered extents.toList

namespace SymbolTable

/-- The table of extents that are in order. -/
def ofOrdered (es : List Extent) (h : Extent.Ordered es) : SymbolTable where
  extents := es.toArray
  starts := es.toArray.map (·.start)
  starts_eq := rfl
  ordered := h

/-- The table of the functions that headers announce. -/
def ofHeaders (hs : List Header) : SymbolTable :=
  ofOrdered (layout hs) (ordered_layout hs)

/-- The table of the functions that the headers among some lines announce. -/
def ofLines (lines : List String) : SymbolTable :=
  ofHeaders (lines.filterMap Header.parse?)

/-- The table without functions. -/
def empty : SymbolTable :=
  ofOrdered [] .nil

instance : Inhabited SymbolTable := ⟨empty⟩

/-- The number of functions. -/
def size (t : SymbolTable) : Nat := t.extents.size

/-- Whether there are no functions. -/
def isEmpty (t : SymbolTable) : Bool := t.extents.isEmpty

/-- The lowest start; no address below it has a function. -/
def lowest? (t : SymbolTable) : Option Address := t.starts[0]?

/-- The extent that holds an address. -/
def find? (t : SymbolTable) (a : Address) : Option Extent :=
  match boundary t.starts (· ≤ a) with
  | 0 => none
  | i + 1 => t.extents[i]?.filter (a ∈ ·)

/-- The function that holds an address. -/
def nameAt? (t : SymbolTable) (a : Address) : Option String :=
  (t.find? a).map (·.name)

theorem size_starts (t : SymbolTable) : t.starts.size = t.size := by
  simp [t.starts_eq, size]

end SymbolTable

end Symbolizer
