import Symbolizer.Address
import Symbolizer.Proofs.Text.Hex

/-!
# Numerals as addresses

A numeral is an address exactly if its number is below 2⁶⁴, however many digits it has
(`ofDigits?_eq_some_iff`): the number only grows from digit to digit, so it may be given up as soon
as it no longer fits. Behind `0x` an address is written with the shortest of its numerals, and read
back from any of them (`numerals_round_trip`).
-/

namespace Symbolizer

open Text

theorem Text.Hex.le_foldl_shiftIn (digits : List Char) (n : Nat) :
    n ≤ digits.foldl Hex.shiftIn n := by
  induction digits generalizing n with
  | nil => exact Nat.le_refl n
  | cons c digits ih =>
    have hle : n ≤ Hex.shiftIn n c := by
      rw [Hex.shiftIn]
      omega
    exact Nat.le_trans hle (ih (Hex.shiftIn n c))

namespace Address

theorem foldlM_shiftIn?_eq_some_iff (digits : List Char) (a b : Address) :
    digits.foldlM shiftIn? a = some b ↔ digits.foldl Hex.shiftIn a.toNat = b.toNat := by
  induction digits generalizing a with
  | nil => simp [UInt64.toNat_inj]
  | cons c digits ih =>
    rw [List.foldlM_cons, List.foldl_cons, shiftIn?]
    split
    · rw [Option.bind_eq_bind, Option.bind_some, ih, UInt64.toNat_ofNatLT]
    · next h =>
      have hle := Hex.le_foldl_shiftIn digits (Hex.shiftIn a.toNat c)
      have hlt := b.toNat_lt_size
      simp only [Option.bind_eq_bind, Option.bind_none, reduceCtorEq, false_iff]
      omega

/-- The digits of an address are those whose number it is. -/
theorem ofDigits?_eq_some_iff {digits : List Char} {a : Address} :
    ofDigits? digits = some a ↔ Hex.value digits = a.toNat :=
  foldlM_shiftIn?_eq_some_iff digits 0 a

/-- Digits fit an address exactly if their number is below 2⁶⁴. -/
theorem ofDigits?_eq_none_iff {digits : List Char} :
    ofDigits? digits = none ↔ UInt64.size ≤ Hex.value digits := by
  constructor
  · intro h
    refine Nat.not_lt.1 fun hlt => ?_
    have hv : Hex.value digits = (UInt64.ofNatLT (Hex.value digits) hlt).toNat :=
      UInt64.toNat_ofNatLT.symm
    rw [ofDigits?_eq_some_iff.2 hv] at h
    cases h
  · intro h
    refine Option.eq_none_iff_forall_ne_some.2 fun a ha => ?_
    have := a.toNat_lt_size
    have := ofDigits?_eq_some_iff.1 ha
    omega

/-- The number of digits is what they stand for, unless it is too wide. -/
theorem map_toNat_ofDigits? (digits : List Char) :
    (ofDigits? digits).map UInt64.toNat =
      if Hex.value digits < UInt64.size then some (Hex.value digits) else none := by
  split
  · next h =>
    have hvalue : Hex.value digits = (UInt64.ofNatLT (Hex.value digits) h).toNat :=
      UInt64.toNat_ofNatLT.symm
    rw [ofDigits?_eq_some_iff.2 hvalue, Option.map_some, ← hvalue]
  · next h =>
    rw [ofDigits?_eq_none_iff.2 (Nat.not_lt.1 h), Option.map_none]

/-- Digits have no sign before them. -/
theorem unsigned_eq_self {digits : List Char} (h : ∀ c ∈ digits, Hex.isDigit c) :
    unsigned digits = digits := by
  unfold unsigned
  split
  · exact absurd (h '+' (by simp)) (by decide)
  · rfl

/-- Behind `0x` an address is read from its digits. -/
theorem parse?_ofList {digits : List Char} (hne : digits ≠ []) (h : ∀ c ∈ digits, Hex.isDigit c) :
    parse? (String.ofList ('0' :: 'x' :: digits)) = ofDigits? digits := by
  have hall : digits.all Hex.isDigit := List.all_eq_true.2 h
  simp [parse?, unsigned_eq_self h, hne, hall]

theorem parse?_append {digits : List Char} (hne : digits ≠ []) (h : ∀ c ∈ digits, Hex.isDigit c) :
    parse? ("0x" ++ String.ofList digits) = ofDigits? digits := by
  have htext : "0x" ++ String.ofList digits = String.ofList ('0' :: 'x' :: digits) := by
    rw [← String.toList_inj]
    simp
  rw [htext, parse?_ofList hne h]

/-- An address is written with the shortened digits that it was read from. -/
theorem text_of_ofDigits? {digits : List Char} {a : Address} (h : ∀ c ∈ digits, Hex.isDigit c)
    (ha : ofDigits? digits = some a) : a.text = "0x" ++ String.ofList (Hex.shorten digits) := by
  rw [text, (Hex.writes_shorten h).eq_ofNat, ofDigits?_eq_some_iff.1 ha]

/-- What is written of an address is read back. -/
theorem parse?_text (a : Address) : parse? a.text = some a := by
  have hwrites := Hex.writes_ofNat a.toNat
  have hdigits : ∀ c ∈ Hex.ofNat a.toNat, Hex.isDigit c :=
    fun c hc => Hex.isDigit_of_mem_lower c (hwrites.lower c hc)
  calc parse? a.text
    _ = ofDigits? (Hex.ofNat a.toNat) := parse?_append hwrites.ne_nil hdigits
    _ = some a := ofDigits?_eq_some_iff.2 hwrites.value_eq

/-- Behind `0x`, any number of digits of either case are read as the address that they stand for, or
not at all if that is not below 2⁶⁴. The address is written with the same digits in lower case, but
without the zeros in front. What is written of any address is read back as that address. -/
theorem numerals_round_trip {d : String} (hne : d ≠ "") (hdigits : ∀ c ∈ d.toList, Hex.isDigit c) :
    (Hex.positional d.toList < 2 ^ 64 →
      ∃ a, parse? ("0x" ++ d) = some a ∧ a.toNat = Hex.positional d.toList ∧
        a.text = "0x" ++ String.ofList (Hex.shorten d.toList)) ∧
    (2 ^ 64 ≤ Hex.positional d.toList → parse? ("0x" ++ d) = none) ∧
    ∀ a : Address, parse? a.text = some a := by
  have hparse := parse?_append (by simpa using hne) hdigits
  rw [String.ofList_toList] at hparse
  rw [hparse, ← Hex.value_eq_positional hdigits]
  refine ⟨fun hfits => ?_, ofDigits?_eq_none_iff.2, parse?_text⟩
  obtain ⟨a, ha, hvalue⟩ : ∃ a, ofDigits? d.toList = some a ∧ a.toNat = Hex.value d.toList := by
    rw [← Option.map_eq_some_iff, map_toNat_ofDigits?]
    exact if_pos hfits
  exact ⟨a, ha, hvalue, text_of_ofDigits? hdigits ha⟩

/-- The highest address in digits of both cases behind zeros, the next number, and zeros only. -/
theorem numerals_round_trip_limits :
    (∃ a, parse? ("0x" ++ "000FFFFFFFFffffffff") = some a ∧ a.toNat = 2 ^ 64 - 1 ∧
      a.text = "0x" ++ "ffffffffffffffff") ∧
    parse? ("0x" ++ "00010000000000000000") = none ∧
    (∃ a, parse? ("0x" ++ "000") = some a ∧ a.text = "0x0" ∧ parse? a.text = some a) := by
  have hdigits {d : String} (h : d.toList.all Hex.isDigit) : ∀ c ∈ d.toList, Hex.isDigit c :=
    List.all_eq_true.1 h
  obtain ⟨hhighest, -, -⟩ :=
    numerals_round_trip (d := "000FFFFFFFFffffffff") (by decide) (hdigits (by decide))
  obtain ⟨-, hover, -⟩ :=
    numerals_round_trip (d := "00010000000000000000") (by decide) (hdigits (by decide))
  obtain ⟨hzeros, -, hback⟩ := numerals_round_trip (d := "000") (by decide) (hdigits (by decide))
  obtain ⟨a, ha, -, htext⟩ := hzeros (by decide)
  exact ⟨hhighest (by decide), hover (by decide), a, ha, htext, hback a⟩

end Address

end Symbolizer
