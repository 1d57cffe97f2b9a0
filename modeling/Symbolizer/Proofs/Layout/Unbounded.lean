import Symbolizer.Attribution
import Symbolizer.Proofs.Block
import Symbolizer.Proofs.Lookup

/-!
# Layouts over the natural numbers

Over addresses of any size a layout needs no care at the top: every function has an end, and that of
the highest lies at 2⁶⁴. `Span.layout` lays functions out like that, and `Span.nameAt?` looks a
number up, be it an address or not.

Extents are spans written in 64 bits (`Extent.span`): one without a `stop` reaches to 2⁶⁴. Read like
that, the layout of headers is the one over the natural numbers (`map_span_layout`), and their table
answers for a number as the spans do, whether the number is an address (`SymbolTable.nameAt?_toNat`)
or too large for one (`Span.nameAt?_eq_none`).
-/

namespace Symbolizer

open Text Text.Scan

/-- The addresses of one function, from `start` up to, and without, `stop`. -/
structure Span where
  name : String
  start : Nat
  stop : Nat
  deriving DecidableEq, Repr

namespace Span

/-- Where a function ends, given the start of the one that follows it in order. -/
def stopAt (start : Nat) : Option Nat → Nat
  | none => UInt64.size
  | some next => if start < next then next else start + 1

/-- Pairs of an address and a name in the order of the addresses, those with one address in the
order given. -/
def sorted (hs : List (Nat × String)) : List (Nat × String) :=
  hs.mergeSort (·.1 ≤ ·.1)

/-- The spans of functions in order. -/
def ofSorted (hs : List (Nat × String)) : List Span :=
  hs.mapIdx fun i h =>
    { name := h.2, start := h.1, stop := stopAt h.1 (hs[i + 1]?.map (·.1)) }

/-- The spans of functions, in the order of their starts. -/
def layout (hs : List (Nat × String)) : List Span :=
  ofSorted (sorted hs)

/-- The name of the last span that starts at or below a number, if it ends above that. -/
def nameAt? (spans : List Span) (n : Nat) : Option String :=
  ((spans.filter (·.start ≤ n)).getLast?.filter (n < ·.stop)).map (·.name)

theorem ofSorted_cons (h : Nat × String) (hs : List (Nat × String)) :
    ofSorted (h :: hs) =
      { name := h.2, start := h.1, stop := stopAt h.1 (hs.head?.map (·.1)) } :: ofSorted hs := by
  simp [ofSorted, List.mapIdx_cons, List.head?_eq_getElem?]

end Span

/-! ## Extents as spans -/

/-- An extent over the natural numbers; one without a stop reaches to 2⁶⁴. -/
def Extent.span (e : Extent) : Span where
  name := e.name
  start := e.start.toNat
  stop := e.stop.elim UInt64.size UInt64.toNat

/-- What a header says, its address as a number. -/
def Header.pair (h : Header) : Nat × String := (h.address.toNat, h.name)

theorem Extent.stop_span_le (e : Extent) : e.span.stop ≤ UInt64.size := by
  rw [span]
  cases e.stop with
  | none => exact Nat.le_refl _
  | some stop => exact Nat.le_of_lt stop.toNat_lt_size

theorem Extent.mem_iff_span {e : Extent} {a : Address} :
    a ∈ e ↔ e.span.start ≤ a.toNat ∧ a.toNat < e.span.stop := by
  rw [mem_def, UInt64.le_iff_toNat_le]
  refine and_congr_right fun _ => ?_
  rw [span]
  cases e.stop with
  | none => simpa using a.toNat_lt_size
  | some stop => simp [UInt64.lt_iff_toNat_lt]

/-- The address after another is one more; after the highest it would be 2⁶⁴. -/
theorem Address.elim_next? (a : Address) : a.next?.elim UInt64.size UInt64.toNat = a.toNat + 1 := by
  rw [next?]
  split
  · exact UInt64.toNat_ofNatLT
  · next h =>
    have hlt := a.toNat_lt_size
    exact (show a.toNat + 1 = UInt64.size by omega).symm

theorem Header.span_extent (h : Header) (next : Option Address) :
    (h.extent next).span = {
      name := h.name
      start := h.address.toNat
      stop := Span.stopAt h.address.toNat (next.map UInt64.toNat) } := by
  rw [extent, Extent.span]
  cases next with
  | none => rfl
  | some next =>
    by_cases hlt : h.address < next
    · have hlt' := UInt64.lt_iff_toNat_lt.1 hlt
      simp [Span.stopAt, hlt, hlt']
    · have hlt' : ¬ h.address.toNat < next.toNat := mt UInt64.lt_iff_toNat_lt.2 hlt
      simp [Span.stopAt, hlt, hlt', Address.elim_next?]

theorem Layout.map_span_ofSorted (hs : List Header) :
    (ofSorted hs).map Extent.span = Span.ofSorted (hs.map Header.pair) := by
  induction hs with
  | nil => rfl
  | cons h hs ih =>
    rw [List.map_cons, Span.ofSorted_cons, ← ih]
    cases hs with
    | nil => simp [Header.span_extent, Header.pair]
    | cons k hs => simp [Header.span_extent, Header.pair]

theorem Header.map_pair_sorted (hs : List Header) :
    (sorted hs).map pair = Span.sorted (hs.map pair) := by
  refine List.map_mergeSort fun h _ k _ => ?_
  exact decide_eq_decide.2 UInt64.le_iff_toNat_le

/-- The layout of headers is that over the natural numbers. -/
theorem map_span_layout (hs : List Header) :
    (layout hs).map Extent.span = Span.layout (hs.map Header.pair) := by
  rw [layout, Layout.map_span_ofSorted, Header.map_pair_sorted, Span.layout]

/-! ## Looking up a number -/

/-- In an order of addresses, those at or below one come first. -/
theorem takeWhile_le_eq_filter {α : Type} {key : α → Address} {xs : List α}
    (h : xs.Pairwise (key · ≤ key ·)) (a : Address) :
    xs.takeWhile (key · ≤ a) = xs.filter (key · ≤ a) := by
  have hbelow : (xs.takeWhile (key · ≤ a)).filter (key · ≤ a) = xs.takeWhile (key · ≤ a) :=
    List.filter_eq_self.2 fun _ => List.mem_takeWhile_imp
  have habove : (xs.dropWhile (key · ≤ a)).filter (key · ≤ a) = [] := by
    refine List.filter_eq_nil_iff.2 fun x hx => ?_
    simpa using lt_of_mem_dropWhile h x hx
  conv_rhs => rw [← List.takeWhile_append_dropWhile (p := (key · ≤ a)) (l := xs),
    List.filter_append, hbelow, habove, List.append_nil]

/-- A table answers for an address as its spans do. -/
theorem SymbolTable.nameAt?_toNat (t : SymbolTable) (a : Address) :
    Span.nameAt? (t.extents.toList.map Extent.span) a.toNat = t.nameAt? a := by
  have hstart :
      (fun e : Extent => decide (e.span.start ≤ a.toNat)) = fun e => decide (e.start ≤ a) := by
    funext e
    exact decide_eq_decide.2 UInt64.le_iff_toNat_le.symm
  rw [nameAt?, find?_eq, takeWhile_le_eq_filter t.ordered, Span.nameAt?, List.filter_map,
    List.getLast?_map, ← hstart]
  rw [show (fun s : Span => decide (s.start ≤ a.toNat)) ∘ Extent.span =
    fun e => decide (e.span.start ≤ a.toNat) from rfl]
  cases hlast : (t.extents.toList.filter fun e => e.span.start ≤ a.toNat).getLast? with
  | none => rfl
  | some e =>
    -- Both sides look at the same extent, so that only its end is left to compare.
    have hstart := of_decide_eq_true (List.mem_filter.1 (List.mem_of_getLast? hlast)).2
    have hmem : a ∈ e ↔ a.toNat < e.span.stop := Extent.mem_iff_span.trans (and_iff_right hstart)
    rw [Option.map_some, Option.filter_some, Option.filter_some]
    simp only [hmem]
    split <;> rfl

/-- No extent holds a number that is too large for an address. -/
theorem Span.nameAt?_eq_none {es : List Extent} {n : Nat} (h : UInt64.size ≤ n) :
    Span.nameAt? (es.map Extent.span) n = none := by
  rw [nameAt?, Option.map_eq_none_iff, Option.filter_eq_none_iff]
  intro s hs
  obtain ⟨e, -, rfl⟩ := List.mem_map.1 (List.mem_filter.1 (List.mem_of_getLast? hs)).1
  have hle := e.stop_span_le
  simp only [decide_eq_true_eq]
  omega

/-- 64 bits are enough: the layout of headers is the one over the natural numbers, and every block
line, however long its start is, is attributed as that says. -/
theorem layout_refines_span_layout (hs : List Header) :
    (layout hs).map Extent.span = Span.layout (hs.map Header.pair) ∧
      ∀ line start, Reports line start →
        ∃ a, Attribution.ofLine? (.ofHeaders hs) line = some a ∧
          a.function = Span.nameAt? (Span.layout (hs.map Header.pair)) start ∧
          a.text = line ++ " " ++
            (Span.nameAt? (Span.layout (hs.map Header.pair)) start).getD "UNKNOWN" := by
  refine ⟨map_span_layout hs, fun line start hreports => ?_⟩
  obtain ⟨b, digits, hparse, hstart, hvalue⟩ := hreports.exists_block
  have hfunction : b.start.bind (SymbolTable.ofHeaders hs).nameAt? =
      Span.nameAt? (Span.layout (hs.map Header.pair)) start := by
    rw [hstart, ← map_span_layout]
    cases ha : Address.ofDigits? digits with
    | none =>
      rw [Option.bind_none, Span.nameAt?_eq_none (hvalue ▸ Address.ofDigits?_eq_none_iff.1 ha)]
    | some a =>
      rw [Option.bind_some, ← hvalue, Address.ofDigits?_eq_some_iff.1 ha,
        ← SymbolTable.nameAt?_toNat]
      rfl
  rw [← hfunction]
  exact ⟨{ line, block := b, function := b.start.bind (SymbolTable.ofHeaders hs).nameAt? },
    by rw [Attribution.ofLine?, hparse, Option.map_some], rfl, rfl⟩

/-- A block line with the given digits in its start. -/
def startingLine (digits : String) : String :=
  "[t INFO rv_emu::cpu] Block execution: 0x" ++ digits ++ " to 0x0"

theorem reports_startingLine {digits : String} {start : Nat} (h : Numeral digits.toList)
    (hvalue : Hex.value digits.toList = start) : Reports (startingLine digits) start := by
  have hgap : Gap [' '] := ⟨by decide, by simp [Blanks, show isBlank ' ' from rfl]⟩
  have hstop : Numeral ['0'] := ⟨by decide, List.all_eq_true.1 (by decide)⟩
  have hfront : BlockLine.Front ['[', 't', ' '] ['t'] := ⟨[' '], hgap, by decide, rfl⟩
  have htail : BlockLine.Tail ("INFO rv_emu::cpu] Block execution: 0x".toList ++ digits.toList ++
      " to 0x0".toList) digits.toList ['0'] := by
    refine ⟨[' '], [' '], [' '], [' '], [' '], [], hgap, hgap, hgap, hgap, hgap, by simp [Blanks],
      h, hstop, ?_⟩
    simp
  have hopen : "[t INFO rv_emu::cpu] Block execution: 0x".toList =
      ['[', 't', ' '] ++ "INFO rv_emu::cpu] Block execution: 0x".toList := by decide
  refine ⟨['t'], digits.toList, ['0'], ⟨_, _, hfront, htail, ?_⟩, hvalue⟩
  unfold startingLine
  rw [String.toList_append, String.toList_append, hopen, List.append_assoc, List.append_assoc,
    List.append_assoc]

/-- Two functions at the highest address, and one below. -/
def topHeaders : List Header :=
  [⟨0xffffffffffffffff, "top"⟩, ⟨0x10, "low"⟩, ⟨0xffffffffffffffff, "peak"⟩]

/-- The extent of a function at the highest address. -/
def topExtent (name : String) : Extent where
  name := name
  start := 0xffffffffffffffff
  stop := none

theorem sorted_topHeaders : Header.sorted topHeaders =
    [⟨0x10, "low"⟩, ⟨0xffffffffffffffff, "top"⟩, ⟨0xffffffffffffffff, "peak"⟩] := by
  simp [Header.sorted, topHeaders, List.mergeSort, List.MergeSort.Internal.splitInTwo, Header.le]

theorem layout_topHeaders : layout topHeaders =
    [⟨"low", 0x10, some 0xffffffffffffffff⟩, topExtent "top", topExtent "peak"] := by
  rw [layout, sorted_topHeaders]
  decide

/-- At the highest address the later listed function is found, and at 2⁶⁴ none is. -/
theorem layout_refines_span_layout_topHeaders :
    (Reports (startingLine "ffffffffffffffff") 0xffffffffffffffff ∧
      (Attribution.ofLine? (.ofHeaders topHeaders) (startingLine "ffffffffffffffff")).map (·.text) =
        some (startingLine "ffffffffffffffff" ++ " peak")) ∧
    Reports (startingLine "0010000000000000000") 0x10000000000000000 ∧
      (Attribution.ofLine? (.ofHeaders topHeaders) (startingLine "0010000000000000000")).map
        (·.text) = some (startingLine "0010000000000000000" ++ " UNKNOWN") := by
  have htop : Reports (startingLine "ffffffffffffffff") 0xffffffffffffffff :=
    reports_startingLine ⟨by decide, List.all_eq_true.1 (by decide)⟩ (by decide +kernel)
  have hover : Reports (startingLine "0010000000000000000") 0x10000000000000000 :=
    reports_startingLine ⟨by decide, List.all_eq_true.1 (by decide)⟩ (by decide +kernel)
  obtain ⟨a, ha, -, htext⟩ := (layout_refines_span_layout topHeaders).2 _ _ htop
  obtain ⟨b, hb, -, htext'⟩ := (layout_refines_span_layout topHeaders).2 _ _ hover
  rw [← map_span_layout, layout_topHeaders] at htext htext'
  refine ⟨⟨htop, ?_⟩, hover, ?_⟩
  · rw [ha, Option.map_some, htext]
    rfl
  · rw [hb, Option.map_some, htext']
    rfl

end Symbolizer
