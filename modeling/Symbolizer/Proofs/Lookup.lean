import Mathlib.Data.List.TakeWhile
import Symbolizer.SymbolTable

/-!
# What a table finds

The binary search stops where the elements in `p` end, if those come first (`boundary_append`), as
they do in an order of addresses (`boundary_of_pairwise`). So a table answers with the last extent
that starts at or below an address, if that extent holds the address (`find?_eq`). Over a layout it
always does: the extent of a header ends only where that of a header with a higher address begins.

Headers in the order of their addresses can be cut at any address that is not below all of them
(`Header.exists_cut`); the last one before the cut is the one that the table finds.
`Nearest` names that header by its place among the headers as they are listed: it has the highest
address that is not above the one looked up, and is the last of several headers there.
`nameAt?_ofHeaders_eq_some_iff` says that the table answers with that header's name.
-/

namespace Symbolizer

theorem boundary.search_eq {α : Type} {xs : Array α} {p : α → Bool} {n : Nat}
    (below : ∀ i (h : i < xs.size), i < n → p xs[i])
    (above : ∀ i (h : i < xs.size), n ≤ i → p xs[i] = false) (lo hi : Nat) (hhi : hi ≤ xs.size)
    (hlo : lo ≤ n) (hn : n ≤ hi) : boundary.search xs p lo hi hhi = n := by
  fun_induction boundary.search xs p lo hi hhi with
  | case1 lo hi hhi hlt mid hmid hp ih =>
    -- The element in the middle is in `p`, so it stands before the boundary.
    refine ih (Nat.lt_of_not_le fun hle => ?_) hn
    simp [above mid hmid hle] at hp
  | case2 lo hi hhi hlt mid hmid hp ih =>
    refine ih hlo (Nat.le_of_not_lt fun hlt' => hp (below mid hmid hlt'))
  | case3 => omega

/-- The search finds where the elements in `p` end, if those come before all others. -/
theorem boundary_append {α : Type} {p : α → Bool} {l₁ l₂ : List α} (h₁ : ∀ x ∈ l₁, p x)
    (h₂ : ∀ x ∈ l₂, p x = false) : boundary (l₁ ++ l₂).toArray p = l₁.length := by
  refine boundary.search_eq (fun i h hi => ?_) (fun i h hi => ?_) _ _ _ (Nat.zero_le _) (by simp)
  · simpa [List.getElem_append_left hi] using h₁ _ (List.getElem_mem hi)
  · simpa [List.getElem_append_right hi] using h₂ _ (List.getElem_mem _)

/-- The first of some elements in the order of their addresses has the lowest one. -/
theorem key_le_of_mem_cons {α : Type} {key : α → Address} {x y : α} {xs : List α}
    (h : (x :: xs).Pairwise (key · ≤ key ·)) (hy : y ∈ x :: xs) : key x ≤ key y := by
  rcases List.mem_cons.1 hy with rfl | hy
  · exact UInt64.le_refl _
  · exact (List.pairwise_cons.1 h).1 y hy

/-- In an order of addresses, what does not start at or below an address starts above it. -/
theorem lt_of_mem_dropWhile {α : Type} {key : α → Address} {xs : List α}
    (h : xs.Pairwise (key · ≤ key ·)) {a : Address} :
    ∀ x ∈ xs.dropWhile (key · ≤ a), a < key x := by
  induction xs with
  | nil => simp
  | cons x xs ih =>
    obtain ⟨hx, hxs⟩ := List.pairwise_cons.1 h
    by_cases hle : key x ≤ a
    · simpa [List.dropWhile_cons, hle] using ih hxs
    · simp only [List.dropWhile_cons, hle, decide_false, Bool.false_eq_true, if_false,
        List.mem_cons, forall_eq_or_imp]
      have hlt := UInt64.not_le.1 hle
      exact ⟨hlt, fun y hy => UInt64.lt_of_lt_of_le hlt (hx y hy)⟩

/-- In an order of addresses, the search counts those that are not above one. -/
theorem boundary_of_pairwise {α : Type} {key : α → Address} {xs : List α}
    (h : xs.Pairwise (key · ≤ key ·)) (a : Address) :
    boundary xs.toArray (key · ≤ a) = (xs.takeWhile (key · ≤ a)).length := by
  have hbelow : ∀ x ∈ xs.takeWhile (key · ≤ a), decide (key x ≤ a) :=
    fun _ => List.mem_takeWhile_imp
  have habove : ∀ x ∈ xs.dropWhile (key · ≤ a), decide (key x ≤ a) = false := by
    intro x hx
    simpa using lt_of_mem_dropWhile h x hx
  have hsearch := boundary_append hbelow habove
  rwa [List.takeWhile_append_dropWhile] at hsearch

/-- The place before the one where a search stops is that of the last element before it. -/
theorem getElem?_length_takeWhile {α : Type} (xs : List α) (p q : α → Bool) :
    (match (xs.takeWhile p).length with
      | 0 => none
      | i + 1 => xs.toArray[i]?.filter q) = (xs.takeWhile p).getLast?.filter q := by
  have hsplit := List.takeWhile_append_dropWhile (p := p) (l := xs)
  generalize xs.dropWhile p = above at hsplit
  generalize xs.takeWhile p = below at hsplit
  subst hsplit
  rcases List.eq_nil_or_concat below with rfl | ⟨below, x, rfl⟩
  · simp
  · simp

/-- A table's answer is the last extent that starts at or below the address, or none. -/
theorem SymbolTable.find?_eq (t : SymbolTable) (a : Address) :
    t.find? a = (t.extents.toList.takeWhile (·.start ≤ a)).getLast?.filter (a ∈ ·) := by
  obtain ⟨⟨es⟩, _, rfl, ordered⟩ := t
  have hstarts : (es.map (·.start)).Pairwise (id · ≤ id ·) := List.pairwise_map.2 ordered
  have hsearch := boundary_of_pairwise hstarts a
  simp only [id, List.takeWhile_map, List.length_map] at hsearch
  simp only [find?, List.map_toArray, hsearch]
  exact getElem?_length_takeWhile es _ _

/-! ## Headers in order -/

theorem Header.perm_sorted (hs : List Header) : (Header.sorted hs).Perm hs :=
  List.mergeSort_perm hs Header.le

theorem Header.mem_sorted {hs : List Header} {h : Header} : h ∈ Header.sorted hs ↔ h ∈ hs :=
  (perm_sorted hs).mem_iff

/-- Headers with one address keep the order in which they are listed. -/
theorem Header.filter_sorted (hs : List Header) (a : Address) :
    (Header.sorted hs).filter (·.address = a) = hs.filter (·.address = a) := by
  have hordered : (hs.filter (·.address = a)).Pairwise (fun h k => h.le k) := by
    refine List.pairwise_of_forall_mem_list fun h hh k hk => ?_
    simp only [List.mem_filter, decide_eq_true_eq] at hh hk
    simp [Header.le, hh.2, hk.2]
  have hsub : (hs.filter (·.address = a)).Sublist (Header.sorted hs) :=
    List.sublist_mergeSort Header.le_trans Header.le_total hordered List.filter_sublist
  have hperm := (perm_sorted hs).filter (·.address = a)
  have hsub' := hsub.filter (·.address = a)
  rw [List.filter_filter] at hsub'
  simp only [Bool.and_self] at hsub'
  exact (hsub'.eq_of_length hperm.length_eq.symm).symm

/-- In order, whatever is higher than a header stands behind it. -/
theorem Header.mem_above_of_sorted_eq {hs below above : List Header} {h k : Header}
    (hsorted : sorted hs = below ++ h :: above) (hk : k ∈ hs) (hlt : h.address < k.address) :
    k ∈ above := by
  have hmem := mem_sorted.2 hk
  have hordered := ordered_sorted hs
  rw [hsorted] at hmem hordered
  rcases List.mem_append.1 hmem with hk | hk
  · have hle := (List.pairwise_append.1 hordered).2.2 k hk h List.mem_cons_self
    exact absurd hlt (UInt64.not_lt.2 hle)
  · rcases List.mem_cons.1 hk with rfl | hk
    · exact absurd hlt (UInt64.lt_irrefl _)
    · exact hk

/-- Where headers in order are cut at an address, the last one before the cut is the highest. -/
theorem Header.address_le_of_sorted_eq {hs below above : List Header} {h k : Header} {a : Address}
    (hsorted : sorted hs = below ++ h :: above) (habove : ∀ l ∈ above, a < l.address) (hk : k ∈ hs)
    (hka : k.address ≤ a) : k.address ≤ h.address := by
  refine UInt64.not_lt.1 fun hlt => ?_
  exact UInt64.not_le.2 (habove k (mem_above_of_sorted_eq hsorted hk hlt)) hka

/-- In order, the last header at an address is the one that is listed last there. -/
theorem Header.getLast?_filter_of_sorted_eq {hs below above : List Header} {h : Header}
    (hsorted : sorted hs = below ++ h :: above) (habove : ∀ k ∈ above, h.address < k.address) :
    (hs.filter (·.address = h.address)).getLast? = some h := by
  have hfilter : above.filter (·.address = h.address) = [] := by
    refine List.filter_eq_nil_iff.2 fun k hk => ?_
    simpa using (UInt64.ne_of_lt (habove k hk)).symm
  rw [← filter_sorted, hsorted, List.filter_append, List.filter_cons_of_pos (by simp), hfilter]
  simp

/-- All headers are above an address, or those in order are cut behind the last one that is not. -/
theorem Header.exists_cut (hs : List Header) (a : Address) :
    (∀ h ∈ hs, a < h.address) ∨
      ∃ below h above, sorted hs = below ++ h :: above ∧ (∀ k ∈ below, k.address ≤ a) ∧
        h.address ≤ a ∧ ∀ k ∈ above, a < k.address := by
  have hsplit := List.takeWhile_append_dropWhile (p := fun h : Header => decide (h.address ≤ a))
    (l := sorted hs)
  have habove := lt_of_mem_dropWhile (ordered_sorted hs) (a := a)
  have hbelow : ∀ h ∈ (sorted hs).takeWhile (·.address ≤ a), h.address ≤ a := by
    intro h hh
    simpa using List.mem_takeWhile_imp hh
  generalize (sorted hs).dropWhile (·.address ≤ a) = above at hsplit habove
  generalize (sorted hs).takeWhile (·.address ≤ a) = below at hsplit hbelow
  rcases List.eq_nil_or_concat below with rfl | ⟨below, h, rfl⟩
  · have hsorted : sorted hs = above := by simpa using hsplit.symm
    exact .inl fun h hh => habove h (hsorted ▸ mem_sorted.2 hh)
  · exact .inr ⟨below, h, above, by simpa using hsplit.symm, fun k hk => hbelow k (by simp [hk]),
      hbelow h (by simp), habove⟩

/-- The last of the elements in `p` has no other behind it. -/
theorem exists_of_getLast?_filter {α : Type} {xs : List α} {p : α → Bool} {x : α}
    (h : (xs.filter p).getLast? = some x) :
    ∃ before behind, xs = before ++ x :: behind ∧ ∀ y ∈ behind, p y = false := by
  obtain ⟨_, hxs⟩ := List.getLast?_eq_some_iff.1 h
  obtain ⟨l₁, _, rfl, -, h₂⟩ := List.filter_eq_append_iff.1 hxs
  obtain ⟨l₃, behind, rfl, -, -, hbehind⟩ := List.filter_eq_cons_iff.1 h₂
  exact ⟨l₁ ++ l₃, behind, by simp, by simpa [List.filter_eq_nil_iff] using hbehind⟩

/-- The header with the greatest address that is not above `a`, the last listed of several. -/
def Nearest (hs : List Header) (a : Address) (h : Header) : Prop :=
  ∃ before behind, hs = before ++ h :: behind ∧ h.address ≤ a ∧
    (∀ k ∈ before, k.address ≤ a → k.address ≤ h.address) ∧
    ∀ k ∈ behind, k.address ≤ a → k.address < h.address

/-- There is only one such header. -/
theorem Nearest.unique {hs : List Header} {a : Address} {h k : Header} (hh : Nearest hs a h)
    (hk : Nearest hs a k) : h = k := by
  obtain ⟨b₁, l₁, rfl, hle, hb₁, hl₁⟩ := hh
  obtain ⟨b₂, l₂, hlist, kle, hb₂, hl₂⟩ := hk
  -- Were one of them listed before the other, it would be lower and not lower.
  rcases List.append_eq_append_iff.1 hlist with ⟨x, rfl, hx⟩ | ⟨x, rfl, hx⟩
  · cases x with
    | nil => exact (List.cons.inj hx).1
    | cons y x =>
      obtain ⟨rfl, rfl⟩ := List.cons.inj hx
      exact absurd (hb₂ h (by simp) hle) (UInt64.not_le.2 (hl₁ k (by simp) kle))
  · cases x with
    | nil => exact (List.cons.inj hx).1.symm
    | cons y x =>
      obtain ⟨rfl, rfl⟩ := List.cons.inj hx
      exact absurd (hb₁ k (by simp) kle) (UInt64.not_le.2 (hl₂ h (by simp) hle))

/-- The extents of headers in order, cut at one of them. -/
theorem Layout.ofSorted_append_cons (below : List Header) (h : Header) (above : List Header) :
    ∃ es, es.map (·.start) = below.map (·.address) ∧
      ofSorted (below ++ h :: above) =
        es ++ h.extent (above.head?.map (·.address)) :: ofSorted above := by
  induction below with
  | nil =>
    refine ⟨[], rfl, ?_⟩
    cases above <;> simp
  | cons k below ih =>
    obtain ⟨es, hes, ih⟩ := ih
    cases below with
    | nil => exact ⟨k.extent (some h.address) :: es, by simp_all [Header.extent], by simp [← ih]⟩
    | cons l below =>
      exact ⟨k.extent (some l.address) :: es, by simp [hes, Header.extent], by simp [← ih]⟩

/-- No extent of headers above an address starts at or below it. -/
theorem Layout.takeWhile_ofSorted_eq_nil {above : List Header} {a : Address}
    (h : ∀ k ∈ above, a < k.address) : (ofSorted above).takeWhile (·.start ≤ a) = [] := by
  have hstart := map_start_ofSorted above
  cases above with
  | nil => rfl
  | cons k above =>
    cases hes : ofSorted (k :: above) with
    | nil => rfl
    | cons e es =>
      rw [hes, List.map_cons, List.map_cons] at hstart
      have hlt : a < e.start := (List.cons.inj hstart).1 ▸ h k List.mem_cons_self
      exact List.takeWhile_cons_of_neg (by simpa using hlt)

/-- The extent of a header reaches up to the next higher header. -/
theorem Header.mem_extent {h : Header} {above : List Header} {a : Address} (hle : h.address ≤ a)
    (habove : ∀ k ∈ above, a < k.address) : a ∈ h.extent (above.head?.map (·.address)) := by
  refine ⟨hle, fun stop hstop => ?_⟩
  cases above with
  | nil => simp [Header.extent] at hstop
  | cons k above =>
    have hk : a < k.address := habove k List.mem_cons_self
    have hlt : h.address < k.address := UInt64.lt_of_le_of_lt hle hk
    obtain rfl : k.address = stop := by simpa [Header.extent, hlt] using hstop
    exact hk

namespace SymbolTable

/-- The starts of a table are the addresses of its headers in order. -/
theorem toList_starts_ofHeaders (hs : List Header) :
    (ofHeaders hs).starts.toList = (Header.sorted hs).map (·.address) := by
  rw [(ofHeaders hs).starts_eq, Array.toList_map]
  exact Layout.map_start_ofSorted _

/-- The extents of a table, cut at one of its headers in order. -/
theorem exists_extents_of_sorted_eq {hs below above : List Header} {h : Header}
    (hsorted : Header.sorted hs = below ++ h :: above) :
    ∃ es, es.map (·.start) = below.map (·.address) ∧ (ofHeaders hs).extents.toList =
      es ++ h.extent (above.head?.map (·.address)) :: Layout.ofSorted above := by
  obtain ⟨es, hes, hlayout⟩ := Layout.ofSorted_append_cons below h above
  refine ⟨es, hes, ?_⟩
  rw [← hlayout, ← hsorted]
  rfl

/-- Where headers in order are cut at an address, the last one below the cut owns it. -/
theorem find?_of_sorted_eq {hs : List Header} {a : Address} {below above : List Header}
    {h : Header} (hsorted : Header.sorted hs = below ++ h :: above)
    (hbelow : ∀ k ∈ below, k.address ≤ a) (hle : h.address ≤ a)
    (habove : ∀ k ∈ above, a < k.address) :
    (ofHeaders hs).find? a = some (h.extent (above.head?.map (·.address))) := by
  obtain ⟨es, hes, hextents⟩ := exists_extents_of_sorted_eq hsorted
  have hes' : ∀ e ∈ es, e.start ≤ a := by
    intro e he
    have := List.mem_map_of_mem (f := (·.start)) he
    rw [hes] at this
    obtain ⟨k, hk, hke⟩ := List.mem_map.1 this
    exact hke ▸ hbelow k hk
  have hmem := Header.mem_extent hle habove
  rw [find?_eq, hextents, List.takeWhile_append_of_pos (by simpa using hes'),
    List.takeWhile_cons_of_pos (by simp [Header.extent, hle]),
    Layout.takeWhile_ofSorted_eq_nil habove]
  simp [hmem]

/-- Where headers in order are cut at an address, the last one below the cut is the nearest. -/
theorem nearest_of_sorted_eq {hs : List Header} {a : Address} {below above : List Header}
    {h : Header} (hsorted : Header.sorted hs = below ++ h :: above) (hle : h.address ≤ a)
    (habove : ∀ k ∈ above, a < k.address) : Nearest hs a h := by
  have hlt : ∀ k ∈ above, h.address < k.address := fun k hk =>
    UInt64.lt_of_le_of_lt hle (habove k hk)
  have hmax : ∀ k ∈ hs, k.address ≤ a → k.address ≤ h.address := fun _ =>
    Header.address_le_of_sorted_eq hsorted habove
  obtain ⟨before, behind, rfl, hbehind⟩ :=
    exists_of_getLast?_filter (Header.getLast?_filter_of_sorted_eq hsorted hlt)
  refine ⟨before, behind, rfl, hle, fun k hk => hmax k (by simp [hk]), fun k hk hka => ?_⟩
  have hne : k.address ≠ h.address := of_decide_eq_false (hbehind k hk)
  exact UInt64.lt_of_le_of_ne (hmax k (by simp [hk]) hka) hne

/-- Either every header lies above an address, or the nearest one owns it. -/
theorem find?_ofHeaders (hs : List Header) (a : Address) :
    (∀ h ∈ hs, a < h.address) ∧ (ofHeaders hs).find? a = none ∨
      ∃ h e, Nearest hs a h ∧ (ofHeaders hs).find? a = some e ∧ e.name = h.name := by
  rcases Header.exists_cut hs a with habove | ⟨below, h, above, hsorted, hbelow, hle, habove⟩
  · have hlayout : (ofHeaders hs).extents.toList = Layout.ofSorted (Header.sorted hs) := rfl
    refine .inl ⟨habove, ?_⟩
    rw [find?_eq, hlayout, Layout.takeWhile_ofSorted_eq_nil fun k hk =>
      habove k (Header.mem_sorted.1 hk)]
    rfl
  · exact .inr ⟨h, _, nearest_of_sorted_eq hsorted hle habove,
      find?_of_sorted_eq hsorted hbelow hle habove, rfl⟩

/-- A table knows exactly the name of the nearest header. -/
theorem nameAt?_ofHeaders_eq_some_iff {hs : List Header} {a : Address} {name : String} :
    (ofHeaders hs).nameAt? a = some name ↔ ∃ h, Nearest hs a h ∧ h.name = name := by
  rw [nameAt?]
  rcases find?_ofHeaders hs a with ⟨habove, hfind⟩ | ⟨h, e, hnear, hfind, hname⟩
  · rw [hfind]
    constructor
    · rintro ⟨⟩
    · rintro ⟨h, ⟨before, behind, rfl, hle, -, -⟩, -⟩
      exact absurd hle (UInt64.not_le.2 (habove h (by simp)))
  · rw [hfind, Option.map_some, Option.some.injEq, hname]
    exact ⟨fun hn => ⟨h, hnear, hn⟩, fun ⟨k, hk, hn⟩ => hnear.unique hk ▸ hn⟩

/-- A table knows no name exactly below all headers. -/
theorem nameAt?_ofHeaders_eq_none_iff {hs : List Header} {a : Address} :
    (ofHeaders hs).nameAt? a = none ↔ ∀ h ∈ hs, a < h.address := by
  rw [nameAt?]
  rcases find?_ofHeaders hs a with ⟨habove, hfind⟩ | ⟨h, e, hnear, hfind, -⟩
  · simpa [hfind] using habove
  · obtain ⟨before, behind, rfl, hle, -, -⟩ := hnear
    rw [hfind, Option.map_some]
    exact ⟨nofun, fun habove => absurd hle (UInt64.not_le.2 (habove h (by simp)))⟩

end SymbolTable

end Symbolizer
