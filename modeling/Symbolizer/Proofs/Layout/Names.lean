import Mathlib.Data.List.Nodup
import Symbolizer.Proofs.Lookup

/-!
# What a layout keeps of its headers

A layout keeps all of its headers (`map_header_layout`), and of the order in which they are listed
it keeps the order of the names at each address (`Header.namesAt`) and nothing else: two listings
have one layout exactly if they list the same names in the same order at every address
(`layout_eq_iff_namesAt`).

Sorting brings the headers of one address together and leaves them in order. In order of their
addresses, headers are determined by what they are at each address (`eq_of_filter_eq`), so there is
no second way to sort them like that.
-/

namespace Symbolizer

/-- The names that headers give to the functions at an address, in the order listed. -/
def Header.namesAt (hs : List Header) (a : Address) : List String :=
  (hs.filter (·.address = a)).map (·.name)

/-- The header whose function owns an extent. -/
def Extent.header (e : Extent) : Header where
  address := e.start
  name := e.name

/-! ## Headers at one address -/

/-- The headers at an address are its names. -/
theorem Header.filter_eq_map_namesAt (hs : List Header) (a : Address) :
    hs.filter (·.address = a) = (namesAt hs a).map ({ address := a, name := · }) := by
  rw [namesAt, List.map_map]
  refine (List.map_id _).symm.trans (List.map_congr_left fun h hh => ?_)
  have ha : h.address = a := of_decide_eq_true (List.mem_filter.1 hh).2
  rw [← ha]
  rfl

theorem Header.filter_eq_iff_namesAt {hs ks : List Header} {a : Address} :
    hs.filter (·.address = a) = ks.filter (·.address = a) ↔ namesAt hs a = namesAt ks a := by
  refine ⟨congrArg (List.map Header.name), fun h => ?_⟩
  rw [filter_eq_map_namesAt, filter_eq_map_namesAt, h]

theorem Header.namesAt_sorted (hs : List Header) (a : Address) :
    namesAt (sorted hs) a = namesAt hs a :=
  congrArg (List.map Header.name) (filter_sorted hs a)

/-! ## Lists that are the same at each key -/

section

variable {α : Type} {key : α → Address} {xs ys : List α}

theorem mem_of_filter_eq (h : ∀ k, xs.filter (key · = k) = ys.filter (key · = k)) {x : α}
    (hx : x ∈ xs) : x ∈ ys := by
  have hmem : x ∈ xs.filter (key · = key x) := List.mem_filter.2 ⟨hx, decide_eq_true rfl⟩
  rw [h] at hmem
  exact (List.mem_filter.1 hmem).1

/-- Two lists in the order of their keys are the same if they are the same at each key. -/
theorem eq_of_filter_eq (hxs : xs.Pairwise (key · ≤ key ·)) (hys : ys.Pairwise (key · ≤ key ·))
    (h : ∀ k, xs.filter (key · = k) = ys.filter (key · = k)) : xs = ys := by
  induction xs generalizing ys with
  | nil =>
    refine (List.eq_nil_iff_forall_not_mem.2 fun y hy => ?_).symm
    cases mem_of_filter_eq (fun k => (h k).symm) hy
  | cons x xs ih =>
    have hx : x ∈ ys := mem_of_filter_eq h List.mem_cons_self
    cases ys with
    | nil => cases hx
    | cons y ys =>
      -- Each of the first ones stands in the other list too, so neither key is below the other.
      have hy : y ∈ x :: xs := mem_of_filter_eq (fun k => (h k).symm) List.mem_cons_self
      have hkey : key x = key y :=
        UInt64.le_antisymm (key_le_of_mem_cons hxs hy) (key_le_of_mem_cons hys hx)
      have hfirst := h (key x)
      rw [List.filter_cons_of_pos (by simp), List.filter_cons_of_pos (by simp [hkey])] at hfirst
      obtain rfl : x = y := (List.cons.inj hfirst).1
      have htail (k : Address) : xs.filter (key · = k) = ys.filter (key · = k) := by
        have hk := h k
        simp only [List.filter_cons] at hk
        split at hk
        · exact (List.cons.inj hk).2
        · exact hk
      rw [ih (List.pairwise_cons.1 hxs).2 (List.pairwise_cons.1 hys).2 htail]

end

theorem Header.sorted_eq_iff_namesAt {hs ks : List Header} :
    sorted hs = sorted ks ↔ ∀ a, namesAt hs a = namesAt ks a := by
  constructor
  · intro h a
    rw [← namesAt_sorted hs, h, namesAt_sorted]
  · intro h
    refine eq_of_filter_eq (ordered_sorted hs) (ordered_sorted ks) fun a => ?_
    rw [filter_sorted, filter_sorted, filter_eq_iff_namesAt]
    exact h a

/-! ## Headers in a layout -/

theorem Layout.map_header_ofSorted (hs : List Header) :
    (ofSorted hs).map Extent.header = hs := by
  induction hs with
  | nil => rfl
  | cons h hs ih =>
    cases hs with
    | nil => rfl
    | cons k hs =>
      rw [ofSorted_cons_cons, List.map_cons, ih]
      rfl

/-- A layout has the extents of its headers, in the order of their addresses. -/
theorem map_header_layout (hs : List Header) :
    (layout hs).map Extent.header = Header.sorted hs :=
  Layout.map_header_ofSorted _

theorem layout_eq_iff_sorted {hs ks : List Header} :
    layout hs = layout ks ↔ Header.sorted hs = Header.sorted ks := by
  constructor
  · intro h
    rw [← map_header_layout, h, map_header_layout]
  · intro h
    rw [layout, h, layout]

/-- Where no two headers have one address, there is only one order of their addresses. -/
theorem Header.sorted_eq_of_perm {hs ks : List Header} (hperm : hs.Perm ks)
    (hnodup : (hs.map (·.address)).Nodup) : sorted hs = sorted ks := by
  have hsorted := (perm_sorted hs).trans (hperm.trans (perm_sorted ks).symm)
  refine hsorted.eq_of_pairwise (fun h k hh hk hle hge => ?_) (ordered_sorted hs)
    (ordered_sorted ks)
  have hinj := List.inj_on_of_nodup_map hnodup
  exact hinj (mem_sorted.1 hh) (hperm.mem_iff.2 (mem_sorted.1 hk)) (UInt64.le_antisymm hle hge)

/-- Two listings have one layout exactly if they list the same names in the same order at every
address. So where addresses do not repeat, the order of a listing does not matter. A layout has as
many extents of each header as the listing has of the header, and is the layout of what they say. -/
theorem layout_eq_iff_namesAt (hs ks : List Header) :
    (layout hs = layout ks ↔ ∀ a, Header.namesAt hs a = Header.namesAt ks a) ∧
    (hs.Perm ks → (hs.map (·.address)).Nodup → layout hs = layout ks) ∧
    ((layout hs).map Extent.header).Perm hs ∧
    layout ((layout hs).map Extent.header) = layout hs := by
  refine ⟨layout_eq_iff_sorted.trans Header.sorted_eq_iff_namesAt, fun hperm hnodup => ?_, ?_, ?_⟩
  · exact layout_eq_iff_sorted.2 (Header.sorted_eq_of_perm hperm hnodup)
  · rw [map_header_layout]
    exact Header.perm_sorted hs
  · rw [map_header_layout, layout_eq_iff_sorted, Header.sorted_eq_iff_namesAt]
    exact Header.namesAt_sorted hs

/-- Two functions at one address, with another one listed between them. -/
def tiedHeaders : List Header := [⟨0x10, "old"⟩, ⟨0x20, "f"⟩, ⟨0x10, "new"⟩]

/-- It does not matter where the other one is listed, but it does which of the two comes first. Of
functions at three addresses the order does not matter at all. -/
theorem layout_eq_iff_namesAt_tiedHeaders :
    layout tiedHeaders = layout [⟨0x20, "f"⟩, ⟨0x10, "old"⟩, ⟨0x10, "new"⟩] ∧
      layout tiedHeaders ≠ layout tiedHeaders.reverse ∧
      layout [⟨0xffffffffffffffff, "top"⟩, ⟨0, "low"⟩, ⟨0x10, "f"⟩] =
        layout [⟨0, "low"⟩, ⟨0x10, "f"⟩, ⟨0xffffffffffffffff, "top"⟩] := by
  refine ⟨(layout_eq_iff_namesAt _ _).1.2 fun a => ?_, fun h => ?_, ?_⟩
  · by_cases ha : a = 0x10
    · subst ha
      decide
    · by_cases ha' : a = 0x20
      · subst ha'
        decide
      · simp [Header.namesAt, tiedHeaders, Ne.symm ha, Ne.symm ha']
  · exact absurd ((layout_eq_iff_namesAt _ _).1.1 h 0x10) (by decide)
  · exact (layout_eq_iff_namesAt _ _).2.1 (by decide) (by decide)

end Symbolizer
