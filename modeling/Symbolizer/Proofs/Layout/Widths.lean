import Mathlib.Data.Set.Card
import Mathlib.Order.Bounds.Defs
import Mathlib.Order.Interval.Finset.Nat
import Mathlib.Order.Interval.Set.Basic
import Symbolizer.Proofs.Layout.Coverage

/-!
# How wide extents are

The width of an extent that ends above its start is the number of addresses it holds
(`Extent.exists_width?_of_lt`), and in a layout every extent that has an end does so. Only the last
extent has none, and those at the highest address (`Header.stop_extent_eq_none_iff`). The widths
telescope: an extent leads from its header to the next one, or where that is level with it, one
address further (`Header.add_width_extent`), so their sum is the way from the lowest header to the
highest, and one more for each extent of the latter kind (`Layout.add_totalWidth_ofSorted`).
-/

namespace Symbolizer

/-- There is no address after the highest one only. -/
theorem Address.next?_eq_none_iff {a : Address} : a.next? = none ↔ a = 0xffffffffffffffff := by
  have hlt := a.toNat_lt_size
  have hmax : (0xffffffffffffffff : Address).toNat = UInt64.size - 1 := rfl
  rw [next?, ← UInt64.toNat_inj, hmax]
  split
  · simp only [reduceCtorEq, false_iff]
    omega
  · simp only [true_iff]
    omega

namespace Extent

/-- An extent holds as many addresses as its span does. -/
theorem ncard_mem (e : Extent) : {a : Address | a ∈ e}.ncard = e.span.stop - e.span.start := by
  have hinj : Function.Injective UInt64.toNat := fun _ _ => UInt64.toNat_inj.1
  have himage : UInt64.toNat '' {a : Address | a ∈ e} = Finset.Ico e.span.start e.span.stop := by
    ext n
    simp only [Set.mem_image, Set.mem_ofPred_eq, mem_iff_span, Finset.coe_Ico, Set.mem_Ico]
    constructor
    · rintro ⟨a, ha, rfl⟩
      exact ha
    · intro hn
      have hlt : n < UInt64.size := Nat.lt_of_lt_of_le hn.2 e.stop_span_le
      exact ⟨.ofNatLT n hlt, by rwa [UInt64.toNat_ofNatLT], UInt64.toNat_ofNatLT⟩
  rw [← Set.ncard_image_of_injective _ hinj, himage, Set.ncard_coe_finset, Nat.card_Ico]

/-- The width of an extent that ends above its start is that of its span. -/
theorem exists_width?_of_lt {e : Extent} {stop : Address} (hstop : e.stop = some stop)
    (hlt : e.start < stop) :
    ∃ w, e.width? = some w ∧ w.toNat = e.span.stop - e.span.start := by
  have hle : e.start ≤ stop := UInt64.le_of_lt hlt
  refine ⟨stop - e.start, by simp [width?, hstop, hle], ?_⟩
  rw [UInt64.toNat_sub_of_le _ _ hle, span, hstop, Option.elim_some]

end Extent

namespace Header

variable {h : Header} {next : Address}

/-- The extent of a header that another follows has no end at the highest address only. -/
theorem stop_extent_eq_none_iff :
    (h.extent (some next)).stop = none ↔ h.address = 0xffffffffffffffff := by
  rw [extent, Option.bind_some]
  split
  · next hlt =>
    refine iff_of_false (Option.some_ne_none _) fun htop => ?_
    have hsize := next.toNat_lt_size
    rw [htop, UInt64.lt_iff_toNat_lt] at hlt
    exact Nat.not_le.2 hlt (Nat.le_of_lt_succ hsize)
  · exact Address.next?_eq_none_iff

/-- Where the extent of a header has an end, that is above the header. -/
theorem lt_stop_extent {next : Option Address} {stop : Address}
    (hstop : (h.extent next).stop = some stop) : h.address < stop := by
  obtain ⟨k, rfl, hk⟩ := Option.bind_eq_some_iff.1 hstop
  split at hk
  · next hlt => exact Option.some.inj hk ▸ hlt
  · rw [Address.next?] at hk
    split at hk
    · obtain rfl := Option.some.inj hk
      rw [UInt64.lt_iff_toNat_lt, UInt64.toNat_ofNatLT]
      exact Nat.lt_succ_self _
    · cases hk

/-- The width of an extent leads from its header to the next one, or where that is level with it, to
the address behind both; at the highest address there is none, and no width. -/
theorem add_width_extent (hle : h.address ≤ next) :
    h.address.toNat + (h.extent (some next)).width?.elim 0 UInt64.toNat =
      next.toNat + if (h.extent (some next)).stop.isSome ∧ h.address = next then 1 else 0 := by
  cases hstop : (h.extent (some next)).stop with
  | none =>
    have htop := stop_extent_eq_none_iff.1 hstop
    have hlevel : h.address = next := by
      rw [← UInt64.toNat_inj]
      rw [UInt64.le_iff_toNat_le] at hle
      have hsize := next.toNat_lt_size
      rw [htop] at hle ⊢
      exact Nat.le_antisymm hle (Nat.le_of_lt_succ hsize)
    simp [Extent.width?, hstop, hlevel]
  | some stop =>
    obtain ⟨w, hw, hwidth⟩ := Extent.exists_width?_of_lt hstop (lt_stop_extent hstop)
    rw [hw, Option.elim_some, hwidth, span_extent, Option.map_some]
    simp only [Span.stopAt, Option.isSome_some, true_and, ← UInt64.toNat_inj]
    rw [UInt64.le_iff_toNat_le] at hle
    split_ifs <;> omega

end Header

namespace Layout

/-- The sum of the widths of those extents that have one. -/
def totalWidth (es : List Extent) : Nat :=
  ((es.filterMap Extent.width?).map UInt64.toNat).sum

/-- The number of extents with an end behind which another one has the same start. -/
def repeats (es : List Extent) : Nat :=
  (es.zip es.tail).countP fun (d, e) => d.stop.isSome ∧ d.start = e.start

theorem totalWidth_cons (e : Extent) (es : List Extent) :
    totalWidth (e :: es) = e.width?.elim 0 UInt64.toNat + totalWidth es := by
  rw [totalWidth, List.filterMap_cons]
  cases e.width? with
  | none => exact (Nat.zero_add _).symm
  | some w => rfl

theorem repeats_cons_cons (d e : Extent) (es : List Extent) :
    repeats (d :: e :: es) =
      (if d.stop.isSome ∧ d.start = e.start then 1 else 0) + repeats (e :: es) := by
  simp [repeats, List.countP_cons, Nat.add_comm]

theorem ofSorted_cons (h : Header) (hs : List Header) :
    ofSorted (h :: hs) = h.extent (hs.head?.map (·.address)) :: ofSorted hs := by
  cases hs <;> simp

/-- Each extent goes by its header and the one behind that. -/
theorem getElem?_ofSorted (hs : List Header) (i : Nat) :
    (ofSorted hs)[i]? = hs[i]?.map fun h => h.extent (hs[i + 1]?.map (·.address)) := by
  induction hs generalizing i with
  | nil => rfl
  | cons h hs ih =>
    rw [ofSorted_cons]
    cases i with
    | zero => simp [List.head?_eq_getElem?]
    | succ i => simpa using ih i

theorem length_ofSorted (hs : List Header) : (ofSorted hs).length = hs.length := by
  rw [← List.length_map (f := (·.start)), map_start_ofSorted, List.length_map]

/-- From the first of some headers in order the widths of their extents lead to the last. -/
theorem add_totalWidth_ofSorted {h : Header} {hs : List Header}
    (hordered : (h :: hs).Pairwise (·.address ≤ ·.address)) :
    h.address.toNat + totalWidth (ofSorted (h :: hs)) =
      ((h :: hs).getLast (List.cons_ne_nil h hs)).address.toNat + repeats (ofSorted (h :: hs)) := by
  induction hs generalizing h with
  | nil => rfl
  | cons k hs ih =>
    obtain ⟨hle, htail⟩ := List.pairwise_cons.1 hordered
    have hwidth := Header.add_width_extent (hle k List.mem_cons_self)
    have hrest := ih htail
    rw [ofSorted_cons_cons, totalWidth_cons, List.getLast_cons_cons]
    rw [ofSorted_cons k hs] at hrest ⊢
    rw [repeats_cons_cons]
    simp only [show (h.extent (some k.address)).start = h.address from rfl,
      show ∀ next, (k.extent next).start = k.address from fun _ => rfl]
    omega

end Layout

/-! ## Widths in a layout -/

variable {hs : List Header}

/-- In a layout an extent that has an end has a width of at least one, the number of its
addresses. -/
theorem exists_width?_layout {e : Extent} (he : e ∈ layout hs) (hstop : e.stop ≠ none) :
    ∃ w, e.width? = some w ∧ 1 ≤ w ∧ w.toNat = {a : Address | a ∈ e}.ncard := by
  obtain ⟨stop, hstop⟩ := Option.ne_none_iff_exists'.1 hstop
  obtain ⟨h, -, next, rfl⟩ := Layout.exists_of_mem_ofSorted he
  have hlt := Header.lt_stop_extent hstop
  obtain ⟨w, hw, hwidth⟩ := Extent.exists_width?_of_lt hstop hlt
  refine ⟨w, hw, ?_, hwidth.trans (Extent.ncard_mem _).symm⟩
  rw [Extent.span, hstop, Option.elim_some] at hwidth
  rw [UInt64.lt_iff_toNat_lt] at hlt
  rw [UInt64.le_iff_toNat_le, hwidth]
  exact Nat.sub_pos_of_lt hlt

/-- Only the last extent of a layout has no end, and those that start at the highest address. -/
theorem stop_layout_eq_none_iff {i : Nat} (hi : i < (layout hs).length) :
    (layout hs)[i].stop = none ↔
      i + 1 = (layout hs).length ∨ (layout hs)[i].start = 0xffffffffffffffff := by
  have hlength : (layout hs).length = (Header.sorted hs).length := Layout.length_ofSorted _
  have hi' : i < (Header.sorted hs).length := hlength ▸ hi
  have hextent : (layout hs)[i] = (Header.sorted hs)[i].extent
      ((Header.sorted hs)[i + 1]?.map (·.address)) := by
    have hget := Layout.getElem?_ofSorted (Header.sorted hs) i
    rw [List.getElem?_eq_getElem hi', Option.map_some] at hget
    exact (List.getElem_eq_iff hi).2 hget
  rw [hextent, hlength]
  by_cases hlast : i + 1 = (Header.sorted hs).length
  · rw [List.getElem?_eq_none (Nat.le_of_eq hlast.symm)]
    exact iff_of_true rfl (.inl hlast)
  · rw [List.getElem?_eq_getElem (Nat.lt_of_le_of_ne hi' hlast), Option.map_some,
      Header.stop_extent_eq_none_iff, or_iff_right hlast]
    rfl

theorem Header.isLeast_of_sorted_eq {first : Header} {behind : List Header}
    (hsorted : sorted hs = first :: behind) :
    IsLeast {n | ∃ h ∈ hs, h.address.toNat = n} first.address.toNat := by
  have hordered := ordered_sorted hs
  rw [hsorted] at hordered
  refine ⟨⟨first, mem_sorted.1 (hsorted ▸ List.mem_cons_self), rfl⟩, ?_⟩
  rintro _ ⟨k, hk, rfl⟩
  exact key_le_of_mem_cons hordered (hsorted ▸ mem_sorted.2 hk)

theorem Header.isGreatest_of_sorted_eq {first : Header} {behind : List Header}
    (hsorted : sorted hs = first :: behind) :
    IsGreatest {n | ∃ h ∈ hs, h.address.toNat = n}
      ((first :: behind).getLast (List.cons_ne_nil first behind)).address.toNat := by
  have hlast := hsorted.trans (List.dropLast_append_getLast (List.cons_ne_nil first behind)).symm
  refine ⟨⟨_, mem_sorted.1 (hlast ▸ List.mem_append_right _ (List.mem_singleton_self _)), rfl⟩, ?_⟩
  rintro _ ⟨k, hk, rfl⟩
  exact address_le_of_sorted_eq hlast nofun hk (UInt64.le_refl _)

/-- The widths in a layout lead from the lowest header to the highest one, and one further for each
extent with an end behind which another one has the same start. -/
theorem totalWidth_layout (hne : hs ≠ []) :
    ∃ lowest highest, IsLeast {n | ∃ h ∈ hs, h.address.toNat = n} lowest ∧
      IsGreatest {n | ∃ h ∈ hs, h.address.toNat = n} highest ∧
      Layout.totalWidth (layout hs) = highest - lowest + Layout.repeats (layout hs) := by
  obtain ⟨k, hk⟩ := List.exists_mem_of_ne_nil hs hne
  obtain ⟨first, behind, hsorted⟩ :=
    List.exists_cons_of_ne_nil (List.ne_nil_of_mem (Header.mem_sorted.2 hk))
  have hordered := Header.ordered_sorted hs
  rw [hsorted] at hordered
  have hlowest := Header.isLeast_of_sorted_eq hsorted
  have hhighest := Header.isGreatest_of_sorted_eq hsorted
  have htotal := Layout.add_totalWidth_ofSorted hordered
  have hle := hlowest.2 hhighest.1
  refine ⟨_, _, hlowest, hhighest, ?_⟩
  rw [layout, hsorted]
  omega

/-- Only the last extent of a layout has no end, and those at the highest address. Each of the
others has a width of at least one, which is the number of addresses that it holds. Together they
are as wide as the way from the lowest header to the highest, and one more for each of them behind
which another extent has the same start. -/
theorem widths_layout (hne : hs ≠ []) :
    (∀ i (hi : i < (layout hs).length), (layout hs)[i].stop = none ↔
      i + 1 = (layout hs).length ∨ (layout hs)[i].start = 0xffffffffffffffff) ∧
    (∀ e ∈ layout hs, e.stop ≠ none →
      ∃ w, e.width? = some w ∧ 1 ≤ w ∧ w.toNat = {a : Address | a ∈ e}.ncard) ∧
    ∃ lowest highest, IsLeast {n | ∃ h ∈ hs, h.address.toNat = n} lowest ∧
      IsGreatest {n | ∃ h ∈ hs, h.address.toNat = n} highest ∧
      Layout.totalWidth (layout hs) = highest - lowest + Layout.repeats (layout hs) :=
  ⟨fun _ => stop_layout_eq_none_iff, fun _ => exists_width?_layout, totalWidth_layout hne⟩

/-- Two functions at the highest address, and two at another one. -/
def levelHeaders : List Header :=
  [⟨0xffffffffffffffff, "top"⟩, ⟨0x10, "old"⟩, ⟨0xffffffffffffffff, "peak"⟩, ⟨0x10, "new"⟩]

theorem layout_levelHeaders : layout levelHeaders =
    [⟨"old", 0x10, some 0x11⟩, ⟨"new", 0x10, some 0xffffffffffffffff⟩, topExtent "top",
      topExtent "peak"] := by
  have hsorted : Header.sorted levelHeaders = [⟨0x10, "old"⟩, ⟨0x10, "new"⟩,
      ⟨0xffffffffffffffff, "top"⟩, ⟨0xffffffffffffffff, "peak"⟩] := by
    simp [Header.sorted, levelHeaders, List.mergeSort, List.MergeSort.Internal.splitInTwo,
      Header.le]
  rw [layout, hsorted]
  decide

/-- At the highest address even an extent that is not the last has no end. The lower of the two
other functions keeps one address. -/
theorem widths_layout_levelHeaders :
    (∃ hi : 2 < (layout levelHeaders).length, (layout levelHeaders)[2].stop = none) ∧
      {a : Address | a ∈ Extent.mk "old" 0x10 (some 0x11)}.ncard = 1 ∧
      Layout.totalWidth (layout levelHeaders) = 0xfffffffffffffff0 := by
  obtain ⟨hends, hwidth, lowest, highest, hlowest, hhighest, htotal⟩ :=
    widths_layout (show levelHeaders ≠ [] by decide)
  refine ⟨?_, ?_, ?_⟩
  · have hi : 2 < (layout levelHeaders).length := by simp [layout_levelHeaders]
    exact ⟨hi, (hends 2 hi).2 (.inr (by simp [layout_levelHeaders, topExtent]))⟩
  · obtain ⟨w, hw, -, hcount⟩ := hwidth ⟨"old", 0x10, some 0x11⟩
      (layout_levelHeaders ▸ List.mem_cons_self) (by decide)
    obtain rfl : (1 : Address) = w := Option.some.inj hw
    exact hcount.symm
  · have hlow : IsLeast {n | ∃ h ∈ levelHeaders, h.address.toNat = n} 0x10 := by
      refine ⟨by decide, ?_⟩
      rintro _ ⟨k, hk, rfl⟩
      revert k
      decide
    have hhigh : IsGreatest {n | ∃ h ∈ levelHeaders, h.address.toNat = n} 0xffffffffffffffff := by
      refine ⟨by decide, ?_⟩
      rintro _ ⟨k, hk, rfl⟩
      revert k
      decide
    rw [htotal, hlowest.unique hlow, hhighest.unique hhigh, layout_levelHeaders]
    decide

end Symbolizer
