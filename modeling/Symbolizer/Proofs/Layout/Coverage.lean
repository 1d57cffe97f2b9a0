import Mathlib.Data.List.Nodup
import Symbolizer.Proofs.Layout.Unbounded

/-!
# What a layout covers

The extents of a layout cover every address from the lowest header on, and no address twice that is
not itself the address of several headers. `countP_mem_layout` counts the extents that hold an
address; that there is no gap, where extents overlap and when they do not follow from the count and
from what two extents can have in common (`Layout.pairwise_ofSorted`).
-/

namespace Symbolizer

theorem Header.mem_extent_none_iff {h : Header} {a : Address} :
    a ∈ h.extent none ↔ h.address ≤ a := by
  rw [Extent.mem_iff_span, span_extent, UInt64.le_iff_toNat_le]
  exact and_iff_left a.toNat_lt_size

/-- The extent of a header ends with the header behind it, but holds the header's own address in any
case. -/
theorem Header.mem_extent_some_iff {h : Header} {next a : Address} :
    a ∈ h.extent (some next) ↔ h.address ≤ a ∧ (a < next ∨ a = h.address) := by
  rw [Extent.mem_iff_span, span_extent, UInt64.le_iff_toNat_le, UInt64.lt_iff_toNat_lt,
    ← UInt64.toNat_inj]
  simp only [Option.map_some, Span.stopAt]
  split <;> omega

/-- An extent holds its start. -/
theorem Header.address_mem_extent (h : Header) (next : Option Address) :
    h.address ∈ h.extent next := by
  cases next with
  | none => exact mem_extent_none_iff.2 (UInt64.le_refl _)
  | some next => exact mem_extent_some_iff.2 ⟨UInt64.le_refl _, .inr rfl⟩

namespace Layout

variable {hs : List Header}

/-- The first of some headers in order is above an address exactly if all are. -/
theorem forall_lt_address_iff {h : Header}
    (hordered : (h :: hs).Pairwise (·.address ≤ ·.address)) {a : Address} :
    (∀ k ∈ h :: hs, a < k.address) ↔ a < h.address := by
  refine ⟨fun hall => hall h List.mem_cons_self, fun hlt k hk => ?_⟩
  exact UInt64.lt_of_lt_of_le hlt (key_le_of_mem_cons hordered hk)

/-- An address below the first of some headers in order is that of none. -/
theorem countP_address_eq_zero {h : Header}
    (hordered : (h :: hs).Pairwise (·.address ≤ ·.address)) {a : Address} (hlt : a < h.address) :
    (h :: hs).countP (·.address = a) = 0 := by
  refine List.countP_eq_zero.2 fun k hk => ?_
  have hk := (forall_lt_address_iff hordered).2 hlt k hk
  simpa using (UInt64.ne_of_lt hk).symm

/-- Of headers in order that are not all above an address, one holds it, or all of those that are at
it do. -/
theorem countP_mem_ofSorted (hordered : hs.Pairwise (·.address ≤ ·.address)) (a : Address) :
    (ofSorted hs).countP (a ∈ ·) =
      if ∀ h ∈ hs, a < h.address then 0 else max 1 (hs.countP (·.address = a)) := by
  induction hs with
  | nil => rfl
  | cons h hs ih =>
    cases hs with
    | nil =>
      simp only [ofSorted_singleton, List.countP_singleton, Header.mem_extent_none_iff,
        forall_lt_address_iff hordered, decide_eq_true_eq]
      simp only [UInt64.lt_iff_toNat_lt, UInt64.le_iff_toNat_le, ← UInt64.toNat_inj]
      split_ifs <;> omega
    | cons k hs =>
      have htail := (List.pairwise_cons.1 hordered).2
      have hle : h.address ≤ k.address := (List.pairwise_cons.1 hordered).1 k List.mem_cons_self
      have hzero := countP_address_eq_zero htail (a := a)
      have hpos : k.address = a → 0 < (k :: hs).countP (·.address = a) := by
        rintro rfl
        exact List.countP_pos_iff.2 ⟨k, List.mem_cons_self, by simp⟩
      rw [ofSorted_cons_cons, List.countP_cons, ih htail, List.countP_cons (a := h)]
      simp only [forall_lt_address_iff hordered, forall_lt_address_iff htail,
        Header.mem_extent_some_iff, decide_eq_true_eq]
      -- Where `a` lies among the first two addresses decides which of the extents hold it.
      generalize (k :: hs).countP (·.address = a) = n at hzero hpos ⊢
      simp only [UInt64.lt_iff_toNat_lt, UInt64.le_iff_toNat_le, ← UInt64.toNat_inj] at *
      split_ifs <;> omega

/-- What two extents have in common is the start of both. -/
theorem pairwise_ofSorted (hordered : hs.Pairwise (·.address ≤ ·.address)) :
    (ofSorted hs).Pairwise fun d e => ∀ a, a ∈ d → a ∈ e → d.start = a ∧ e.start = a := by
  induction hs with
  | nil => exact .nil
  | cons h hs ih =>
    cases hs with
    | nil => exact List.pairwise_singleton _ _
    | cons k hs =>
      have htail := (List.pairwise_cons.1 hordered).2
      have hle : h.address ≤ k.address := (List.pairwise_cons.1 hordered).1 k List.mem_cons_self
      rw [ofSorted_cons_cons]
      refine .cons (fun e he a hd ha => ?_) (ih htail)
      have hstart : e.start ∈ (k :: hs).map (·.address) :=
        map_start_ofSorted (k :: hs) ▸ List.mem_map_of_mem he
      obtain ⟨l, hl, hstart⟩ := List.mem_map.1 hstart
      have hkl : k.address ≤ l.address := key_le_of_mem_cons htail hl
      obtain ⟨-, hd⟩ := Header.mem_extent_some_iff.1 hd
      have hea : e.start ≤ a := ha.1
      rw [show (h.extent (some k.address)).start = h.address from rfl]
      simp only [UInt64.lt_iff_toNat_lt, UInt64.le_iff_toNat_le, ← UInt64.toNat_inj] at *
      omega

/-- Every extent of a layout is that of a header, up to some following one. -/
theorem exists_of_mem_ofSorted {e : Extent} (he : e ∈ ofSorted hs) :
    ∃ h ∈ hs, ∃ next, e = h.extent next := by
  obtain ⟨i, hi, rfl⟩ := List.getElem_of_mem he
  simp only [ofSorted, List.getElem_zipWith]
  exact ⟨_, List.getElem_mem _, _, rfl⟩

end Layout

variable {hs : List Header}

/-- How many extents of a layout hold an address: none below all headers, and otherwise one for each
header at the address, or the one that begins before it. -/
theorem countP_mem_layout_eq (hs : List Header) (a : Address) :
    (layout hs).countP (a ∈ ·) =
      if ∀ h ∈ hs, a < h.address then 0 else max 1 (hs.countP (·.address = a)) := by
  rw [layout, Layout.countP_mem_ofSorted (Header.ordered_sorted hs),
    (Header.perm_sorted hs).countP_eq]
  simp only [Header.mem_sorted]

theorem exists_mem_layout {h : Header} (hh : h ∈ hs) {a : Address} (hle : h.address ≤ a) :
    ∃ e ∈ layout hs, a ∈ e := by
  have hpos : 0 < (layout hs).countP (a ∈ ·) := by
    rw [countP_mem_layout_eq, if_neg fun hall => UInt64.not_le.2 (hall h hh) hle]
    omega
  obtain ⟨e, he, ha⟩ := List.countP_pos_iff.1 hpos
  exact ⟨e, he, of_decide_eq_true ha⟩

/-- Where two extents of a layout overlap, several headers have one address; they overlap nowhere
else. -/
theorem pairwise_overlap_layout (hs : List Header) :
    (layout hs).Pairwise fun d e => ∀ a, a ∈ d → a ∈ e →
      2 ≤ hs.countP (·.address = a) ∧ ∀ b, b ∈ d → b ∈ e → b = a := by
  refine List.pairwise_iff_forall_sublist.2 fun {d e} hsub a hd he => ?_
  have hcommon := List.pairwise_iff_forall_sublist.1
    (Layout.pairwise_ofSorted (Header.ordered_sorted hs)) hsub
  have hcount := hsub.countP_le (p := (a ∈ ·))
  rw [countP_mem_layout_eq] at hcount
  refine ⟨?_, fun b hbd hbe => (hcommon b hbd hbe).1.symm.trans (hcommon a hd he).1⟩
  simp only [List.countP_cons, hd, he, decide_true, if_true, List.countP_nil] at hcount
  split at hcount <;> omega

/-- The extents of a layout have nothing in common exactly if the headers have no address in
common. -/
theorem pairwise_disjoint_layout_iff :
    (layout hs).Pairwise (fun d e => ∀ a, a ∈ d → a ∉ e) ↔ (hs.map (·.address)).Nodup := by
  constructor
  · intro hdisjoint
    have hstarts : ((layout hs).map (·.start)).Nodup := by
      refine List.pairwise_map.2 (hdisjoint.imp_of_mem fun hd he hdisjoint heq => ?_)
      obtain ⟨h, -, next, rfl⟩ := Layout.exists_of_mem_ofSorted hd
      obtain ⟨k, -, next', rfl⟩ := Layout.exists_of_mem_ofSorted he
      refine hdisjoint h.address (h.address_mem_extent next) ?_
      rw [show h.address = k.address from heq]
      exact k.address_mem_extent next'
    rw [layout, Layout.map_start_ofSorted] at hstarts
    exact ((Header.perm_sorted hs).map _).nodup_iff.1 hstarts
  · intro hnodup
    refine (pairwise_overlap_layout hs).imp fun hoverlap a hd he => ?_
    have htwo := (hoverlap a hd he).1
    have hone := List.nodup_iff_count_le_one.1 hnodup a
    rw [List.count, List.countP_map] at hone
    have heq : hs.countP ((· == a) ∘ (·.address)) = hs.countP (·.address = a) :=
      List.countP_congr fun h _ => by simp
    omega

/-- A layout holds each address from its lowest header on: once, or as many times as headers have
it. Its extents overlap only there, and not at all if the headers' addresses differ. -/
theorem countP_mem_layout (hs : List Header) :
    (∀ a, (layout hs).countP (a ∈ ·) =
      if ∀ h ∈ hs, a < h.address then 0 else max 1 (hs.countP (·.address = a))) ∧
    (∀ a, (∃ h ∈ hs, h.address ≤ a) → ∃ e ∈ layout hs, a ∈ e) ∧
    ((layout hs).Pairwise fun d e => ∀ a, a ∈ d → a ∈ e →
      2 ≤ hs.countP (·.address = a) ∧ ∀ b, b ∈ d → b ∈ e → b = a) ∧
    ((layout hs).Pairwise (fun d e => ∀ a, a ∈ d → a ∉ e) ↔ (hs.map (·.address)).Nodup) :=
  ⟨countP_mem_layout_eq hs, fun _ ⟨_, hh, hle⟩ => exists_mem_layout hh hle,
    pairwise_overlap_layout hs, pairwise_disjoint_layout_iff⟩

/-- Two extents at the highest address overlap there only, and below them there is no gap. -/
theorem countP_mem_layout_topHeaders :
    ((∃ h ∈ topHeaders, h.address ≤ 0x11) ∧ ∃ e ∈ layout topHeaders, 0x11 ∈ e) ∧
      (layout topHeaders).countP (0xffffffffffffffff ∈ ·) = 2 ∧
      [topExtent "top", topExtent "peak"].Sublist (layout topHeaders) ∧
      (∀ a, a ∈ topExtent "top" → a ∈ topExtent "peak" → a = 0xffffffffffffffff) := by
  obtain ⟨hcount, hgap, hoverlap, -⟩ := countP_mem_layout topHeaders
  have hbelow : ∃ h ∈ topHeaders, h.address ≤ 0x11 := by decide
  have htop : [topExtent "top", topExtent "peak"].Sublist (layout topHeaders) :=
    layout_topHeaders ▸ List.sublist_cons_self _ _
  have honly := List.pairwise_iff_forall_sublist.1 hoverlap htop 0xffffffffffffffff
    (by decide) (by decide)
  exact ⟨⟨hbelow, hgap 0x11 hbelow⟩, (hcount _).trans (by decide), htop, honly.2⟩

end Symbolizer
