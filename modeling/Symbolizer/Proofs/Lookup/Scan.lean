import Mathlib.Data.List.Chain
import Symbolizer.Proofs.Layout.Unbounded

/-!
# Scanning extents for an address

Extents in the order of their starts need not come from headers: they may overlap, leave gaps, or
hold nothing at all, and any of them may have no end. `Extent.scan?` looks an address up in them one
by one. A table of them answers as that does, and so does the search over the bare array, although
one searches the starts and the other the extents (`SymbolTable.find?_ofOrdered_eq_scan?`).

Where each extent ends before the next one begins, no extent but the one that is looked at can hold
the address (`Extent.filter_mem_eq_scan?`).
-/

namespace Symbolizer

namespace Extent

/-- The last of some extents that starts at or below an address, if it holds the address. -/
def scan? (es : List Extent) (a : Address) : Option Extent :=
  (es.filter (·.start ≤ a)).getLast?.filter (a ∈ ·)

/-- Whether an extent has an end, and that is not above the start of another one. -/
def EndsBefore (d e : Extent) : Prop :=
  ∃ stop, d.stop = some stop ∧ stop ≤ e.start

instance : DecidableRel EndsBefore := fun d e =>
  match h : d.stop with
  | none => isFalse fun ⟨_, hstop, _⟩ => by cases h.symm.trans hstop
  | some stop =>
    decidable_of_iff (stop ≤ e.start)
      ⟨fun hle => ⟨stop, h, hle⟩, fun ⟨_, hstop, hle⟩ => Option.some.inj (h.symm.trans hstop) ▸ hle⟩

theorem EndsBefore.notMem {d e : Extent} (h : EndsBefore d e) {a : Address} (hle : e.start ≤ a) :
    a ∉ d := by
  obtain ⟨stop, hstop, hstart⟩ := h
  intro ha
  have hlt : a < stop := ha.2 stop hstop
  exact UInt64.not_lt.2 (UInt64.le_trans hstart hle) hlt

/-- The search over an array of extents in order answers as a scan does. -/
theorem findIn?_eq_scan? {es : List Extent} (h : Ordered es) (a : Address) :
    findIn? es.toArray a = scan? es a := by
  rw [findIn?, boundary_of_pairwise h, scan?, ← takeWhile_le_eq_filter h]
  exact getElem?_length_takeWhile es _ _

/-! ## Extents that end before the next one begins -/

variable {e : Extent} {es : List Extent} {a : Address}

/-- An extent is passed over if one behind it starts at or below the address. -/
theorem scan?_cons_of_le {d : Extent} (hd : d ∈ es) (hle : d.start ≤ a) :
    scan? (e :: es) a = scan? es a := by
  have hne : es.filter (·.start ≤ a) ≠ [] :=
    List.ne_nil_of_mem (List.mem_filter.2 ⟨hd, decide_eq_true hle⟩)
  rw [scan?, scan?, List.filter_cons]
  split
  · rw [List.getLast?_cons, List.getLast?_eq_some_getLast hne, Option.getD_some]
  · rfl

/-- An extent decides if all behind it start above the address. -/
theorem scan?_cons_of_lt (h : ∀ d ∈ es, a < d.start) :
    scan? (e :: es) a = if a ∈ e then some e else none := by
  have hnil : es.filter (·.start ≤ a) = [] :=
    List.filter_eq_nil_iff.2 fun d hd => by simpa using h d hd
  rw [scan?, List.filter_cons, hnil]
  by_cases hle : e.start ≤ a
  · simp [hle, Option.filter_some]
  · have hmem : a ∉ e := fun ha => hle ha.1
    simp [hle, hmem]

theorem filter_mem_eq_nil (h : ∀ d ∈ es, a < d.start) : es.filter (a ∈ ·) = [] := by
  refine List.filter_eq_nil_iff.2 fun d hd hmem => ?_
  exact UInt64.not_le.2 (h d hd) (of_decide_eq_true hmem).1

/-- Of extents each of which ends before the next one begins, none holds an address but the one that
a scan finds. -/
theorem filter_mem_eq_scan? (hordered : Ordered es) (hends : es.IsChain EndsBefore) (a : Address) :
    es.filter (a ∈ ·) = (scan? es a).toList := by
  induction es with
  | nil => rfl
  | cons e es ih =>
    obtain ⟨-, htail⟩ := List.pairwise_cons.1 hordered
    obtain ⟨hhead, hchain⟩ := List.isChain_cons.1 hends
    by_cases hlt : ∀ d ∈ es, a < d.start
    · rw [scan?_cons_of_lt hlt, List.filter_cons, filter_mem_eq_nil hlt]
      by_cases ha : a ∈ e <;> simp [ha]
    · -- Where an extent behind `e` is not above the address, the first of them is not either.
      simp only [not_forall, UInt64.not_lt] at hlt
      obtain ⟨d, hd, hle⟩ := hlt
      have hnot : a ∉ e := by
        cases es with
        | nil => cases hd
        | cons k es =>
          exact (hhead k rfl).notMem (UInt64.le_trans (key_le_of_mem_cons htail hd) hle)
      rw [scan?_cons_of_le hd hle, List.filter_cons_of_neg (by simpa using hnot), ih htail hchain]

end Extent

namespace SymbolTable

/-- A table answers as a scan of its extents does. -/
theorem find?_eq_scan? (t : SymbolTable) (a : Address) :
    t.find? a = Extent.scan? t.extents.toList a := by
  rw [find?_eq, takeWhile_le_eq_filter t.ordered, Extent.scan?]

/-- A table of any extents in order, and the search over them, answer with the last extent that
starts at or below an address if it holds the address, and else with none. If each extent but the
last one ends before the next one begins, that is the one extent that holds the address, and none
exactly if no extent does. -/
theorem find?_ofOrdered_eq_scan? {es : List Extent} (h : Extent.Ordered es) (a : Address) :
    (ofOrdered es h).find? a = Extent.scan? es a ∧
    Extent.findIn? es.toArray a = Extent.scan? es a ∧
    (ofOrdered es h).nameAt? a = (Extent.scan? es a).map (·.name) ∧
    (es.IsChain Extent.EndsBefore →
      (∀ e, (ofOrdered es h).find? a = some e ↔ es.filter (a ∈ ·) = [e]) ∧
        ((ofOrdered es h).find? a = none ↔ ∀ e ∈ es, a ∉ e)) := by
  have hfind : (ofOrdered es h).find? a = Extent.scan? es a := find?_eq_scan? _ a
  refine ⟨hfind, Extent.findIn?_eq_scan? h a, by rw [nameAt?, hfind], fun hends => ?_⟩
  have hfilter := Extent.filter_mem_eq_scan? h hends a
  constructor
  · intro e
    rw [hfind, hfilter]
    cases Extent.scan? es a <;> simp
  · have hnone : (∀ e ∈ es, a ∉ e) ↔ es.filter (a ∈ ·) = [] := by simp
    rw [hfind, hnone, hfilter, Option.toList_eq_nil_iff]

/-- Extents of which two have one start, one has no end and one ends before it starts. -/
def looseExtents : List Extent :=
  [⟨"open", 0x10, none⟩, ⟨"low", 0x10, some 0x18⟩, ⟨"inverted", 0x20, some 0x8⟩,
    ⟨"top", 0xffffffffffffffff, none⟩]

/-- Extents that each end before the next one begins, one of them empty and one inverted. -/
def tidyExtents : List Extent :=
  [⟨"f", 0x10, some 0x20⟩, ⟨"empty", 0x20, some 0x20⟩, ⟨"g", 0x20, some 0x28⟩,
    ⟨"inverted", 0x30, some 0x8⟩, ⟨"last", 0x40, none⟩]

/-- Where the last extent that starts at or below an address does not hold it, none is found,
whether or not another one holds it. -/
theorem find?_ofOrdered_eq_scan?_looseExtents :
    (∃ h : Extent.Ordered looseExtents,
      (ofOrdered looseExtents h).nameAt? 0x17 = some "low" ∧
        (ofOrdered looseExtents h).find? 0x18 = none ∧
        Extent.findIn? looseExtents.toArray 0xffffffffffffffff =
          some ⟨"top", 0xffffffffffffffff, none⟩) ∧
    ∃ h : Extent.Ordered tidyExtents, tidyExtents.IsChain Extent.EndsBefore ∧
      (ofOrdered tidyExtents h).find? 0x20 = some ⟨"g", 0x20, some 0x28⟩ ∧
      (ofOrdered tidyExtents h).find? 0x30 = none := by
  have hloose : Extent.Ordered looseExtents := by decide
  have htidy : Extent.Ordered tidyExtents := by decide
  have hends : tidyExtents.IsChain Extent.EndsBefore := by decide
  refine ⟨⟨hloose, ?_, ?_, ?_⟩, htidy, hends, ?_, ?_⟩
  · exact (find?_ofOrdered_eq_scan? hloose 0x17).2.2.1.trans (by decide)
  · exact (find?_ofOrdered_eq_scan? hloose 0x18).1.trans (by decide)
  · exact (find?_ofOrdered_eq_scan? hloose 0xffffffffffffffff).2.1.trans (by decide)
  · exact (((find?_ofOrdered_eq_scan? htidy 0x20).2.2.2 hends).1 _).2 (by decide)
  · exact ((find?_ofOrdered_eq_scan? htidy 0x30).2.2.2 hends).2.2 (by decide)

end SymbolTable

end Symbolizer
