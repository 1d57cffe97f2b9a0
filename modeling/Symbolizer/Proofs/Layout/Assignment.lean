import Symbolizer.Proofs.Layout.Unbounded

/-!
# Which extent an address is assigned to

`Assigns` says which extent headers give to an address, in terms of their addresses and of the order
they are listed in: no sorting and no search. There is one such extent at most (`Assigns.unique`),
and none exactly below all headers. The table of the headers finds it, and finds it where its search
stops: the extents of headers that a later listed one has replaced are passed over, and what the
search comes to always holds the address (`SymbolTable.find?_ofHeaders_iff`).
-/

namespace Symbolizer

/-- The extent that headers give to an address. -/
structure Assigns (hs : List Header) (a : Address) (e : Extent) : Prop where
  /-- It starts at the greatest address of a header that is not above `a`. -/
  start_le : e.start ≤ a
  start_mem : ∃ h ∈ hs, h.address = e.start
  le_start : ∀ h ∈ hs, h.address ≤ a → h.address ≤ e.start
  /-- It has the name of the header that is listed last there. -/
  name_eq : (hs.filter (·.address = e.start)).getLast?.map (·.name) = some e.name
  /-- It ends at the least address of a header above its start; there is no end without one. -/
  stop_eq : e.stop = ((hs.map (·.address)).filter (e.start < ·)).min?

theorem Assigns.unique {hs : List Header} {a : Address} {d e : Extent} (hd : Assigns hs a d)
    (he : Assigns hs a e) : d = e := by
  obtain ⟨dname, dstart, dstop⟩ := d
  obtain ⟨ename, estart, estop⟩ := e
  obtain rfl : dstart = estart := by
    obtain ⟨h, hh, rfl⟩ := hd.start_mem
    obtain ⟨k, hk, rfl⟩ := he.start_mem
    exact UInt64.le_antisymm (he.le_start h hh hd.start_le) (hd.le_start k hk he.start_le)
  obtain rfl : dname = ename := Option.some.inj (hd.name_eq.symm.trans he.name_eq)
  obtain rfl : dstop = estop := hd.stop_eq.trans he.stop_eq.symm
  rfl

/-- In order, the header behind one that is the last at its address has the least address above. -/
theorem Header.head?_eq_min? {hs below above : List Header} {h : Header}
    (hsorted : sorted hs = below ++ h :: above) (habove : ∀ k ∈ above, h.address < k.address) :
    above.head?.map (·.address) = ((hs.map (·.address)).filter (h.address < ·)).min? := by
  have hordered := ordered_sorted hs
  rw [hsorted] at hordered
  have hsome {k : Header} (hk : k ∈ hs) (hlt : h.address < k.address) : k ∈ above :=
    mem_above_of_sorted_eq hsorted hk hlt
  cases above with
  | nil =>
    refine (List.min?_eq_none_iff.2 (List.filter_eq_nil_iff.2 fun b hb hlt => ?_)).symm
    obtain ⟨k, hk, rfl⟩ := List.mem_map.1 hb
    cases hsome hk (of_decide_eq_true hlt)
  | cons k above =>
    have hk : k ∈ hs := mem_sorted.1 (hsorted ▸ by simp)
    have hlt := habove k List.mem_cons_self
    refine (List.min?_eq_some_iff.2 ⟨?_, fun b hb => ?_⟩).symm
    · exact List.mem_filter.2 ⟨List.mem_map_of_mem hk, decide_eq_true hlt⟩
    · obtain ⟨hb, hlt⟩ := List.mem_filter.1 hb
      obtain ⟨l, hl, rfl⟩ := List.mem_map.1 hb
      have htail := (List.pairwise_cons.1 (List.pairwise_append.1 hordered).2.1).2
      exact key_le_of_mem_cons htail (hsome hl (of_decide_eq_true hlt))

/-- Where headers in order are cut at an address, it is assigned to the last one below the cut. -/
theorem assigns_of_sorted_eq {hs below above : List Header} {h : Header} {a : Address}
    (hsorted : Header.sorted hs = below ++ h :: above) (hle : h.address ≤ a)
    (habove : ∀ k ∈ above, a < k.address) :
    Assigns hs a (h.extent (above.head?.map (·.address))) := by
  have hlt : ∀ k ∈ above, h.address < k.address := fun k hk =>
    UInt64.lt_of_le_of_lt hle (habove k hk)
  have hlast := Header.getLast?_filter_of_sorted_eq hsorted hlt
  refine ⟨hle, ⟨h, ?_, rfl⟩, fun k => Header.address_le_of_sorted_eq hsorted habove, ?_, ?_⟩
  · exact Header.mem_sorted.1 (hsorted ▸ by simp)
  · exact congrArg (Option.map (·.name)) hlast
  · refine Eq.trans ?_ (Header.head?_eq_min? hsorted hlt)
    cases above with
    | nil => rfl
    | cons k above => simp [Header.extent, hlt k List.mem_cons_self]

namespace SymbolTable

/-- The search stops behind the headers that are not above the address. -/
theorem boundary_starts_of_sorted_eq {hs below above : List Header} {a : Address}
    (hsorted : Header.sorted hs = below ++ above) (hbelow : ∀ k ∈ below, k.address ≤ a)
    (habove : ∀ k ∈ above, a < k.address) :
    boundary (ofHeaders hs).starts (· ≤ a) = below.length := by
  have hstarts : (ofHeaders hs).starts =
      (below.map (·.address) ++ above.map (·.address)).toArray := by
    rw [← List.map_append, ← hsorted, ← toList_starts_ofHeaders, Array.toArray_toList]
  rw [hstarts, boundary_append (by simpa using hbelow) (by simpa using habove), List.length_map]

/-- What the search of a table made of headers comes to holds the address, and is not followed by
another extent with the same start. -/
theorem exists_of_boundary_starts {hs : List Header} {a : Address} {i : Nat}
    (hi : boundary (ofHeaders hs).starts (· ≤ a) = i + 1) :
    ∃ e, (ofHeaders hs).extents[i]? = some e ∧ a ∈ e ∧
      ∀ d ∈ (ofHeaders hs).extents.toList.drop (i + 1), e.start < d.start := by
  rcases Header.exists_cut hs a with habove | ⟨below, h, above, hsorted, hbelow, hle, habove⟩
  · -- All starts are above the address, so the search stops before the first of them.
    have hnone := boundary_starts_of_sorted_eq (List.nil_append (Header.sorted hs)).symm nofun
      fun k hk => habove k (Header.mem_sorted.1 hk)
    rw [hnone] at hi
    cases hi
  · have hlast : boundary (ofHeaders hs).starts (· ≤ a) = (below ++ [h]).length := by
      refine boundary_starts_of_sorted_eq (hsorted.trans (by simp)) (fun k hk => ?_) habove
      rcases List.mem_append.1 hk with hk | hk
      · exact hbelow k hk
      · exact List.mem_singleton.1 hk ▸ hle
    obtain ⟨es, hes, hextents⟩ := exists_extents_of_sorted_eq hsorted
    have hlength : es.length = below.length := by
      rw [← List.length_map (f := (·.start)), hes, List.length_map]
    -- The place before the one where the search stops is that of the last header below the cut.
    obtain rfl : i = es.length := by
      rw [hlast, List.length_append, List.length_singleton] at hi
      omega
    refine ⟨h.extent (above.head?.map (·.address)), ?_, Header.mem_extent hle habove,
      fun d hd => ?_⟩
    · rw [← Array.getElem?_toList, hextents, List.getElem?_append_right (Nat.le_refl _),
        Nat.sub_self, List.getElem?_cons_zero]
    · rw [hextents, List.drop_append, List.drop_eq_nil_of_le (Nat.le_succ _), List.nil_append,
        Nat.add_sub_cancel_left, List.drop_one, List.tail_cons] at hd
      have hstart := List.mem_map_of_mem (f := (·.start)) hd
      rw [Layout.map_start_ofSorted] at hstart
      obtain ⟨k, hk, hkd⟩ := List.mem_map.1 hstart
      exact hkd ▸ UInt64.lt_of_le_of_lt hle (habove k hk)

/-- A table of headers answers with the extent that they assign to the address, and with none
exactly if all of them are above it. The last of several extents with one start is found, and never
is what the search comes to rejected. -/
theorem find?_ofHeaders_iff (hs : List Header) (a : Address) :
    ((ofHeaders hs).find? a = none ↔ ∀ h ∈ hs, a < h.address) ∧
    (∀ e, (ofHeaders hs).find? a = some e ↔ Assigns hs a e) ∧
    ∀ i, boundary (ofHeaders hs).starts (· ≤ a) = i + 1 →
      ∃ e, (ofHeaders hs).extents[i]? = some e ∧ a ∈ e ∧ (ofHeaders hs).find? a = some e ∧
        ∀ d ∈ (ofHeaders hs).extents.toList.drop (i + 1), e.start < d.start := by
  refine ⟨?_, fun e => ?_, fun i hi => ?_⟩
  · rw [← nameAt?_ofHeaders_eq_none_iff, nameAt?, Option.map_eq_none_iff]
  · rcases Header.exists_cut hs a with habove | ⟨below, h, above, hsorted, hbelow, hle, habove⟩
    · have hnone := nameAt?_ofHeaders_eq_none_iff.2 habove
      rw [nameAt?, Option.map_eq_none_iff] at hnone
      rw [hnone]
      constructor
      · intro he
        cases he
      · intro hassigns
        obtain ⟨h, hh, hstart⟩ := hassigns.start_mem
        exact absurd (hstart ▸ hassigns.start_le) (UInt64.not_le.2 (habove h hh))
    · have hassigns := assigns_of_sorted_eq hsorted hle habove
      rw [find?_of_sorted_eq hsorted hbelow hle habove, Option.some.injEq]
      exact ⟨fun he => he ▸ hassigns, hassigns.unique⟩
  · obtain ⟨e, he, hmem, hlast⟩ := exists_of_boundary_starts hi
    exact ⟨e, he, hmem, by simp [find?, hi, he, hmem], hlast⟩

/-- Of two functions at the highest address the search comes to the one that is listed later. -/
theorem find?_ofHeaders_topHeaders :
    boundary (ofHeaders topHeaders).starts (· ≤ 0xffffffffffffffff) = 2 + 1 ∧
      (ofHeaders topHeaders).find? 0xffffffffffffffff = some (topExtent "peak") := by
  have hsearch : boundary (ofHeaders topHeaders).starts (· ≤ 0xffffffffffffffff) = 2 + 1 :=
    boundary_starts_of_sorted_eq (sorted_topHeaders.trans (List.append_nil _).symm) (by decide)
      nofun
  have hpeak : (ofHeaders topHeaders).extents[2]? = some (topExtent "peak") := by
    rw [show (ofHeaders topHeaders).extents = (layout topHeaders).toArray from rfl,
      layout_topHeaders]
    rfl
  obtain ⟨e, he, -, hfind, -⟩ := (find?_ofHeaders_iff topHeaders 0xffffffffffffffff).2.2 2 hsearch
  rw [hpeak] at he
  exact ⟨hsearch, hfind.trans he.symm⟩

end SymbolTable

end Symbolizer
