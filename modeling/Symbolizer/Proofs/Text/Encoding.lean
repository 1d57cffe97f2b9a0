import Symbolizer.Proofs.Text.Tolerant

/-!
# Decoding what was encoded

The bytes of a character take the decoder through one sequence, which it completes as that character
(`chars_utf8EncodeChar`). So a text is what its bytes are decoded to (`decode_toUTF8`).
-/

namespace Symbolizer.Text.Tolerant

theorem start_ascii : ∀ n < 0x80, start (UInt8.ofNat n) = ([Char.ofNat n], none) := by
  decide +kernel

/-- The first of two bytes. -/
theorem start_of_two : ∀ n < 0x20, 2 ≤ n →
    start (UInt8.ofNat (n + 0xC0)) = ([], some ⟨n, 1, 0x80, 0xBF⟩) := by
  decide

/-- The first of three bytes. The second tells needless lengths and surrogates apart. -/
theorem start_of_three : ∀ n < 0x10, start (UInt8.ofNat (n + 0xE0)) =
    ([], some ⟨n, 2, if n = 0 then 0xA0 else 0x80, if n = 13 then 0x9F else 0xBF⟩) := by
  decide

/-- The first of four bytes. The second tells needless lengths and too high numbers apart. -/
theorem start_of_four : ∀ n < 5, start (UInt8.ofNat (n + 0xF0)) =
    ([], some ⟨n, 3, if n = 0 then 0x90 else 0x80, if n = 4 then 0x8F else 0xBF⟩) := by
  decide

/-- A byte of six more bits goes on with a sequence that allows it. -/
theorem step_continue {p : Pending} {n : Nat} (hn : n < 0x40) (hlow : p.low.toNat ≤ n + 0x80)
    (hhigh : n + 0x80 ≤ p.high.toNat) :
    step (some p) (UInt8.ofNat (n + 0x80)) =
      if p.owed ≤ 1 then ([Char.ofNat (64 * p.bits + n)], none)
      else ([], some { bits := 64 * p.bits + n, owed := p.owed - 1 }) := by
  have hb : (UInt8.ofNat (n + 0x80)).toNat = n + 0x80 := by
    rw [UInt8.toNat_ofNat']
    omega
  have hallowed : p.low ≤ UInt8.ofNat (n + 0x80) ∧ UInt8.ofNat (n + 0x80) ≤ p.high := by
    rw [UInt8.le_iff_toNat_le, UInt8.le_iff_toNat_le, hb]
    exact ⟨hlow, hhigh⟩
  simp only [step]
  rw [if_pos hallowed, Pending.continue, hb, Nat.add_sub_cancel]

/-- Six bits are within the widest bounds. -/
theorem bounds_of_lt {n : Nat} (hn : n < 0x40) :
    (0x80 : UInt8).toNat ≤ n + 0x80 ∧ n + 0x80 ≤ (0xBF : UInt8).toNat := by
  show 0x80 ≤ n + 0x80 ∧ n + 0x80 ≤ 0xBF
  omega

/-- A byte behind which more are owed leaves a sequence with the widest bounds. -/
theorem chars_more {bits owed n : Nat} {low high : UInt8} (hn : n < 0x40)
    (hbounds : low.toNat ≤ n + 0x80 ∧ n + 0x80 ≤ high.toNat) (rest : List UInt8) :
    chars (some ⟨bits, owed + 2, low, high⟩) (UInt8.ofNat (n + 0x80) :: rest) =
      chars (some ⟨64 * bits + n, owed + 1, 0x80, 0xBF⟩) rest := by
  have howed : ¬ owed + 2 ≤ 1 := by omega
  rw [chars, step_continue hn hbounds.1 hbounds.2, if_neg howed]
  rfl

/-- A byte behind which nothing is owed completes a character. -/
theorem chars_last {bits n : Nat} (hn : n < 0x40) (rest : List UInt8) :
    chars (some ⟨bits, 1, 0x80, 0xBF⟩) (UInt8.ofNat (n + 0x80) :: rest) =
      Char.ofNat (64 * bits + n) :: chars none rest := by
  have hbounds := bounds_of_lt hn
  rw [chars, step_continue hn hbounds.1 hbounds.2, if_pos (Nat.le_refl 1)]
  rfl

theorem chars_two {a b : Nat} (ha : 2 ≤ a) (ha' : a < 0x20) (hb : b < 0x40) (rest : List UInt8) :
    chars none (UInt8.ofNat (a + 0xC0) :: UInt8.ofNat (b + 0x80) :: rest) =
      Char.ofNat (64 * a + b) :: chars none rest := by
  rw [chars, step, start_of_two a ha' ha]
  exact chars_last hb rest

theorem chars_three {a b c : Nat} (ha : a < 0x10) (hb : b < 0x40) (hc : c < 0x40)
    (hlow : a = 0 → 0x20 ≤ b) (hhigh : a = 13 → b < 0x20) (rest : List UInt8) :
    chars none (UInt8.ofNat (a + 0xE0) :: UInt8.ofNat (b + 0x80) :: UInt8.ofNat (c + 0x80) ::
        rest) =
      Char.ofNat (64 * (64 * a + b) + c) :: chars none rest := by
  have hbounds : (if a = 0 then (0xA0 : UInt8) else 0x80).toNat ≤ b + 0x80 ∧
      b + 0x80 ≤ (if a = 13 then (0x9F : UInt8) else 0xBF).toNat := by
    split <;> split <;> simp only [UInt8.reduceToNat] <;> omega
  rw [chars, step, start_of_three a ha]
  exact (chars_more hb hbounds _).trans (chars_last hc rest)

theorem chars_four {a b c d : Nat} (ha : a < 5) (hb : b < 0x40) (hc : c < 0x40) (hd : d < 0x40)
    (hlow : a = 0 → 0x10 ≤ b) (hhigh : a = 4 → b < 0x10) (rest : List UInt8) :
    chars none (UInt8.ofNat (a + 0xF0) :: UInt8.ofNat (b + 0x80) :: UInt8.ofNat (c + 0x80) ::
        UInt8.ofNat (d + 0x80) :: rest) =
      Char.ofNat (64 * (64 * (64 * a + b) + c) + d) :: chars none rest := by
  have hbounds : (if a = 0 then (0x90 : UInt8) else 0x80).toNat ≤ b + 0x80 ∧
      b + 0x80 ≤ (if a = 4 then (0x8F : UInt8) else 0xBF).toNat := by
    split <;> split <;> simp only [UInt8.reduceToNat] <;> omega
  rw [chars, step, start_of_four a ha]
  refine (chars_more hb hbounds _).trans ?_
  exact (chars_more hc (bounds_of_lt hc) _).trans (chars_last hd rest)

/-- The bytes of a character are decoded as that character. -/
theorem chars_utf8EncodeChar (c : Char) (rest : List UInt8) :
    chars none (String.utf8EncodeChar c ++ rest) = c :: chars none rest := by
  have hc : Char.ofNat c.val.toNat = c := Char.ofNat_toNat c
  have hvalid : c.val.toNat < 0xD800 ∨ 0xDFFF < c.val.toNat ∧ c.val.toNat < 0x110000 := c.valid
  rw [String.utf8EncodeChar]
  generalize c.val.toNat = v at *
  split
  · have hstart := start_ascii v (by omega)
    rw [List.singleton_append, chars, step, hstart, hc]
    rfl
  split
  · have hv : 64 * (v / 64 % 0x20) + v % 0x40 = v := by omega
    refine (chars_two (by omega) (by omega) (by omega) rest).trans ?_
    rw [hv, hc]
  split
  · have hv : 64 * (64 * (v / 4096 % 0x10) + v / 64 % 0x40) + v % 0x40 = v := by omega
    refine (chars_three (by omega) (by omega) (by omega) (by omega) (by omega) rest).trans ?_
    rw [hv, hc]
  · have hv : 64 * (64 * (64 * (v / 262144 % 0x08) + v / 4096 % 0x40) + v / 64 % 0x40) +
        v % 0x40 = v := by omega
    refine (chars_four (by omega) (by omega) (by omega) (by omega) (by omega) (by omega)
      rest).trans ?_
    rw [hv, hc]

theorem chars_flatMap_utf8EncodeChar (cs : List Char) :
    chars none (cs.flatMap String.utf8EncodeChar) = cs := by
  induction cs with
  | nil => rfl
  | cons c cs ih => rw [List.flatMap_cons, chars_utf8EncodeChar, ih]

/-- The bytes of a text are those of its characters. -/
theorem toList_data_toUTF8 (s : String) :
    s.toUTF8.data.toList = s.toList.flatMap String.utf8EncodeChar := by
  rw [String.toUTF8_eq_toByteArray, ← String.utf8Encode_toList, List.utf8Encode,
    List.toList_data_toByteArray]

/-- A text is what its bytes are decoded to. -/
theorem decode_toUTF8 (s : String) : decode s.toUTF8.data.toList = s := by
  rw [← String.toList_inj, toList_decode, toList_data_toUTF8, chars_flatMap_utf8EncodeChar]

/-- A byte of ASCII is never a part of a longer character. -/
theorem eq_of_mem_utf8EncodeChar {c : Char} {b : UInt8} (hb : b ∈ String.utf8EncodeChar c)
    (hlt : b.toNat < 0x80) : c.toNat = b.toNat := by
  have hne {n : Nat} (h : 0x80 ≤ n) (h' : n < 0x100) : b ≠ UInt8.ofNat n := by
    rintro rfl
    rw [UInt8.toNat_ofNat'] at hlt
    omega
  rw [String.utf8EncodeChar] at hb
  rw [show c.toNat = c.val.toNat from rfl]
  generalize c.val.toNat = v at *
  split at hb
  · rw [List.mem_singleton.1 hb, UInt8.toNat_ofNat']
    omega
  split at hb
  · simp only [List.mem_cons, List.not_mem_nil, or_false] at hb
    rcases hb with h | h <;> exact absurd h (hne (by omega) (by omega))
  split at hb
  · simp only [List.mem_cons, List.not_mem_nil, or_false] at hb
    rcases hb with h | h | h <;> exact absurd h (hne (by omega) (by omega))
  · simp only [List.mem_cons, List.not_mem_nil, or_false] at hb
    rcases hb with h | h | h | h <;> exact absurd h (hne (by omega) (by omega))

end Symbolizer.Text.Tolerant
