import Symbolizer.Extent
import Symbolizer.Header

/-!
# From headers to extents

`layout` gives each header of a listing the addresses from its own up to the next higher one. Of
headers with one address all but the last listed keep that single address, and the highest function
has no upper end.

`ordered_layout` says that the extents come out in the order of their starts.

In symtrace `layout` is `ranges_from_headers`, and `Layout.ofLines` is `build_function_ranges`.
-/

namespace Symbolizer

/-- Whether a header may stand before another. -/
def Header.le (h k : Header) : Bool := h.address ≤ k.address

/-- Headers in the order of their addresses, those with one address in the order given. -/
def Header.sorted (hs : List Header) : List Header :=
  hs.mergeSort Header.le

/-- The extent of a header, given the address of the header that follows it in order. -/
def Header.extent (h : Header) (following : Option Address) : Extent where
  name := h.name
  start := h.address
  stop := following.bind fun next => if h.address < next then some next else h.address.next?

/-- The extents of headers in order. -/
def Layout.ofSorted (hs : List Header) : List Extent :=
  hs.zipWith Header.extent (hs.tail.map (some ·.address) ++ [none])

/-- The extents of the functions that headers announce, in the order of their starts. -/
def layout (hs : List Header) : List Extent :=
  Layout.ofSorted (Header.sorted hs)

/-- The extents that the headers among some lines lay out. -/
def Layout.ofLines (lines : List String) : List Extent :=
  layout (lines.filterMap Header.parse?)

theorem Header.le_trans (h k l : Header) : h.le k → k.le l → h.le l := by
  simpa [Header.le] using UInt64.le_trans

theorem Header.le_total (h k : Header) : h.le k || k.le h := by
  simpa [Header.le] using UInt64.le_total _ _

theorem Header.ordered_sorted (hs : List Header) :
    (Header.sorted hs).Pairwise (·.address ≤ ·.address) := by
  simpa [Header.le, Header.sorted] using List.pairwise_mergeSort Header.le_trans Header.le_total hs

namespace Layout

@[simp] theorem ofSorted_nil : ofSorted [] = [] := rfl

@[simp] theorem ofSorted_singleton (h : Header) : ofSorted [h] = [h.extent none] := rfl

@[simp] theorem ofSorted_cons_cons (h k : Header) (hs : List Header) :
    ofSorted (h :: k :: hs) = h.extent (some k.address) :: ofSorted (k :: hs) := by
  simp [ofSorted]

/-- Laying out moves no start and drops none. -/
theorem map_start_ofSorted (hs : List Header) :
    (ofSorted hs).map (·.start) = hs.map (·.address) := by
  match hs with
  | [] => rfl
  | [h] => rfl
  | h :: k :: hs => simp [Header.extent, map_start_ofSorted (k :: hs)]

end Layout

/-- Extents come out in the order of their starts. -/
theorem ordered_layout (hs : List Header) : Extent.Ordered (layout hs) := by
  have h := Header.ordered_sorted hs
  rw [← List.pairwise_map (R := (· ≤ ·))] at h
  rw [Extent.Ordered, ← List.pairwise_map (R := (· ≤ ·)), layout, Layout.map_start_ofSorted]
  exact h

end Symbolizer
