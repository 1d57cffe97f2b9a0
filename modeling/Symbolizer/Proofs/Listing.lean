import Symbolizer.Listing
import Symbolizer.Proofs.Header
import Symbolizer.Proofs.Lines.Reading
import Symbolizer.Proofs.Lookup

/-!
# The table of a listing

`Owns` names the function that a listing puts at an address by the line of the listing that
announces it. The table of the listing answers with that function (`nameAt?_ofLines_eq_some_iff`),
and with none exactly below all that is announced (`nameAt?_ofLines_eq_none_iff`).

A file that holds some bytes gives their lines (`Source.Holds.items_eq`), in whatever chunks it is
read. So a listing that announces a function at all loads as the table of its lines
(`Listing.load_of_holds`).
-/

namespace Symbolizer

/-- The function that a listing puts at an address: the one that a line of it announces at the
highest address not above that, and of several such lines the last. -/
def Owns (listing : List String) (start : Nat) (name : String) : Prop :=
  ∃ before line behind address, listing = before ++ line :: behind ∧
    Announces line address name ∧ address ≤ start ∧
    (∀ l ∈ before, ∀ a n, Announces l a n → a ≤ start → a ≤ address) ∧
    ∀ l ∈ behind, ∀ a n, Announces l a n → a ≤ start → a < address

/-- What holds of the address of every header read from some lines holds of what they announce. -/
theorem forall_mem_headers_iff {lines : List String} {p : Nat → Prop} :
    (∀ h ∈ lines.filterMap Header.parse?, p h.address.toNat) ↔
      ∀ l ∈ lines, ∀ a n, Announces l a n → p a := by
  simp only [List.mem_filterMap]
  constructor
  · intro h l hl a n hannounces
    obtain ⟨k, hk, rfl, -⟩ := hannounces.exists_header
    exact h k ⟨l, hl, hk⟩
  · rintro h k ⟨l, hl, hk⟩
    exact h l hl _ _ (Header.parse?_eq_some_iff.1 hk)

theorem exists_nearest_iff {listing : List String} {a : Address} {name : String} :
    (∃ h, Nearest (listing.filterMap Header.parse?) a h ∧ h.name = name) ↔
      Owns listing a.toNat name := by
  constructor
  · rintro ⟨h, ⟨_, _, hlist, hle, hbefore, hbehind⟩, rfl⟩
    obtain ⟨l₁, _, rfl, rfl, h₂⟩ := List.filterMap_eq_append_iff.1 hlist
    obtain ⟨l₃, line, l₄, rfl, hnone, hline, rfl⟩ := List.filterMap_eq_cons_iff.1 h₂
    -- The lines between announce nothing, so they may as well count as listed before.
    rw [← List.append_nil (l₁.filterMap _), ← List.filterMap_eq_nil_iff.2 hnone,
      ← List.filterMap_append] at hbefore
    exact ⟨l₁ ++ l₃, line, l₄, h.address.toNat, (List.append_assoc l₁ l₃ _).symm,
      Header.parse?_eq_some_iff.1 hline, hle,
      forall_mem_headers_iff (p := fun n => n ≤ a.toNat → n ≤ h.address.toNat).1 hbefore,
      forall_mem_headers_iff (p := fun n => n ≤ a.toNat → n < h.address.toNat).1 hbehind⟩
  · rintro ⟨before, line, behind, address, rfl, hline, hle, hbefore, hbehind⟩
    obtain ⟨h, hparse, rfl, rfl⟩ := hline.exists_header
    refine ⟨h, ⟨before.filterMap Header.parse?, behind.filterMap Header.parse?, ?_, hle,
      forall_mem_headers_iff (p := fun n => n ≤ a.toNat → n ≤ h.address.toNat).2 hbefore,
      forall_mem_headers_iff (p := fun n => n ≤ a.toNat → n < h.address.toNat).2 hbehind⟩, rfl⟩
    rw [List.filterMap_append, List.filterMap_cons_some hparse]

namespace SymbolTable

/-- The table of a listing knows exactly the function that the listing puts at an address. -/
theorem nameAt?_ofLines_eq_some_iff {listing : List String} {a : Address} {name : String} :
    (ofLines listing).nameAt? a = some name ↔ Owns listing a.toNat name :=
  nameAt?_ofHeaders_eq_some_iff.trans exists_nearest_iff

/-- The table of a listing knows none exactly below all that the listing announces. -/
theorem nameAt?_ofLines_eq_none_iff {listing : List String} {a : Address} :
    (ofLines listing).nameAt? a = none ↔
      ∀ l ∈ listing, ∀ s n, Announces l s n → a.toNat < s :=
  nameAt?_ofHeaders_eq_none_iff.trans forall_mem_headers_iff

theorem lowest?_ofHeaders (hs : List Header) :
    (ofHeaders hs).lowest? = (Header.sorted hs).head?.map (·.address) := by
  rw [lowest?, ← Array.getElem?_toList, toList_starts_ofHeaders, ← List.head?_eq_getElem?,
    List.head?_map]

/-- A table has a lowest start unless it was made of no headers. -/
theorem lowest?_ofHeaders_eq_none_iff {hs : List Header} :
    (ofHeaders hs).lowest? = none ↔ hs = [] := by
  rw [lowest?_ofHeaders, Option.map_eq_none_iff, List.head?_eq_none_iff, Header.sorted,
    ← List.length_eq_zero_iff, List.length_mergeSort, List.length_eq_zero_iff]

/-- The lowest start of a table is the lowest address of its headers. -/
theorem lowest?_ofHeaders_eq_some {hs : List Header} {a : Address}
    (h : (ofHeaders hs).lowest? = some a) :
    (∃ k ∈ hs, k.address = a) ∧ ∀ k ∈ hs, a ≤ k.address := by
  rw [lowest?_ofHeaders, Option.map_eq_some_iff] at h
  obtain ⟨first, hfirst, rfl⟩ := h
  obtain ⟨behind, hsorted⟩ := List.head?_eq_some_iff.1 hfirst
  have hordered := Header.ordered_sorted hs
  rw [hsorted] at hordered
  have hmem {k : Header} : k ∈ hs ↔ k ∈ first :: behind := by
    rw [← Header.mem_sorted, hsorted]
  exact ⟨⟨first, hmem.2 List.mem_cons_self, rfl⟩,
    fun k hk => key_le_of_mem_cons hordered (hmem.1 hk)⟩

/-- The table of a listing has no lowest start exactly if the listing announces nothing. -/
theorem lowest?_ofLines_eq_none_iff {listing : List String} :
    (ofLines listing).lowest? = none ↔ ∀ l ∈ listing, ∀ a n, ¬ Announces l a n := by
  rw [ofLines, lowest?_ofHeaders_eq_none_iff, List.eq_nil_iff_forall_not_mem]
  exact forall_mem_headers_iff (p := fun _ => False)

end SymbolTable

/-! ## Loading -/

/-- The texts of the lines of some bytes. -/
def textLines (bytes : List UInt8) : List String :=
  (Lineation.ofList bytes).lines.map Text.Tolerant.decode

/-- A file that is read as the given bytes, in whatever chunks they come and however often requests
for them are interrupted. -/
def Source.Holds (source : Source) (bytes : List UInt8) : Prop :=
  ∃ script, source = .file { script } ∧ Cut script bytes

theorem Source.holds_ofBytes (bytes : List UInt8) : (ofBytes bytes).Holds bytes :=
  ⟨_, rfl, .single bytes⟩

theorem Source.Holds.items_eq {source : Source} {bytes : List UInt8} (h : source.Holds bytes) :
    source.items = (textLines bytes).map .ok := by
  obtain ⟨script, rfl, hcut⟩ := h
  rw [← Lineation.text_ofList bytes] at hcut
  rw [items, Reader.items_of_cut hcut, textLines, List.map_map]
  rfl

namespace Listing

variable {ε α : Type}

theorem untilError_go (before : List α) (items : List (Except ε α)) :
    untilError.go before items =
      (before.reverse ++ (untilError items).1, (untilError items).2) := by
  induction items generalizing before with
  | nil => simp [untilError, untilError.go]
  | cons item items ih =>
    cases item with
    | error e => simp [untilError, untilError.go]
    | ok a =>
      rw [untilError, untilError.go, untilError.go, ih, ih [a]]
      simp

theorem untilError_nil : untilError ([] : List (Except ε α)) = ([], none) := rfl

theorem untilError_error (e : ε) (items : List (Except ε α)) :
    untilError (.error e :: items) = ([], some e) := rfl

theorem untilError_ok (a : α) (items : List (Except ε α)) :
    untilError (.ok a :: items) = (a :: (untilError items).1, (untilError items).2) :=
  untilError_go [a] items

theorem untilError_map_ok (as : List α) :
    untilError (as.map .ok : List (Except ε α)) = (as, none) := by
  induction as with
  | nil => rfl
  | cons a as ih => rw [List.map_cons, untilError_ok, ih]

/-- A table that is made of lines tells of each what there is to tell of it. -/
theorem ofLines_eq (lines : List String) :
    ofLines lines = (SymbolTable.ofLines lines, lines.filterMap diagnostic?) := by
  simp only [ofLines, SymbolTable.ofLines, List.filterMap_filterMap]
  rfl

/-- Lines that announce nothing are no listing. -/
theorem ofAllLines_of_forall (path : String) {lines : List String}
    (hnone : ∀ line ∈ lines, ∀ a n, ¬ Announces line a n) :
    ofAllLines path lines = (.error (.noHeaders path), lines.filterMap diagnostic?) := by
  simp only [ofAllLines, ofLines_eq, SymbolTable.lowest?_ofLines_eq_none_iff.2 hnone]

/-- Lines that announce a function are a listing, and its table has a lowest start to tell. -/
theorem ofAllLines_of_exists (path : String) {lines : List String}
    (hannounces : ∃ line ∈ lines, ∃ a n, Announces line a n) :
    ∃ lowest, (SymbolTable.ofLines lines).lowest? = some lowest ∧
      ofAllLines path lines = (.ok (.ofLines lines), lines.filterMap diagnostic? ++
        [.tableBuilt path (SymbolTable.ofLines lines).size lowest]) := by
  obtain ⟨line, hline, a, n, h⟩ := hannounces
  obtain ⟨lowest, hlowest⟩ := Option.ne_none_iff_exists'.1 fun hnone =>
    SymbolTable.lowest?_ofLines_eq_none_iff.1 hnone line hline a n h
  exact ⟨lowest, hlowest, by simp only [ofAllLines, ofLines_eq, hlowest]⟩

/-- A file that is read to its end loads as its lines do. -/
theorem load_of_items {files : Files} {path : String} {source : Source} {lines : List String}
    (hopen : files path = .ok source) (hitems : source.items = lines.map .ok) :
    load files path = ofAllLines path lines := by
  simp only [load, hopen, hitems, untilError_map_ok]

/-- A listing that announces a function loads as the table of its lines. -/
theorem load_of_holds {files : Files} {path : String} {source : Source} {bytes : List UInt8}
    (hopen : files path = .ok source) (hholds : source.Holds bytes)
    (hannounces : ∃ line ∈ textLines bytes, ∃ a n, Announces line a n) :
    ∃ told, load files path = (.ok (SymbolTable.ofLines (textLines bytes)), told) := by
  obtain ⟨lowest, -, htable⟩ := ofAllLines_of_exists path hannounces
  exact ⟨_, (load_of_items hopen hholds.items_eq).trans htable⟩

end Listing

end Symbolizer
