import Mathlib.Data.List.Basic
import Mathlib.Data.List.Induction
import Mathlib.Data.Nat.Digits.Defs
import Symbolizer.Text.Hex

/-!
# The numeral of a number

Of the numerals of a number one is in lower case and has no needless zeros. `ofNat` writes that one
(`writes_ofNat`), and there is no other (`Writes.eq_ofNat`). `shorten` makes it of any numeral of
that number (`writes_shorten`). `ofWidth` writes the one that has a given number of digits
(`value_ofWidth`).

`value` takes in one digit after another; `positional` gives each digit the weight of its place. The
two agree (`value_eq_positional`).
-/

namespace Symbolizer.Text.Hex

/-- The numeral of a number in lower case, without needless zeros. -/
structure Writes (digits : List Char) (n : Nat) : Prop where
  value_eq : value digits = n
  lower : ∀ c ∈ digits, c ∈ "0123456789abcdef".toList
  ne_nil : digits ≠ []
  short : digits.head? = some '0' → digits = ['0']

theorem digitValue_digitChar : ∀ n < 16, digitValue n.digitChar = n := by decide

theorem digitChar_mem : ∀ n < 16, n.digitChar ∈ "0123456789abcdef".toList := by decide

theorem digitChar_eq_zero : ∀ n < 16, n.digitChar = '0' → n = 0 := by decide

theorem ofNat_of_lt {n : Nat} (h : n < 16) : ofNat n = [n.digitChar] :=
  Nat.toDigits_of_lt_base h

theorem ofNat_of_le {n : Nat} (h : 16 ≤ n) : ofNat n = ofNat (n / 16) ++ [(n % 16).digitChar] :=
  Nat.toDigits_of_base_le (by decide) h

theorem ofNat_ne_nil (n : Nat) : ofNat n ≠ [] := Nat.toDigits_ne_nil

theorem value_ofNat (n : Nat) : value (ofNat n) = n := by
  induction n using Nat.strongRecOn with
  | ind n ih =>
    by_cases h : n < 16
    · have hvalue := digitValue_digitChar n h
      rw [ofNat_of_lt h, ← List.nil_append [_], value_append_singleton, value_nil, shiftIn]
      omega
    · have hvalue := digitValue_digitChar (n % 16) (by omega)
      rw [ofNat_of_le (by omega), value_append_singleton, ih _ (by omega), shiftIn]
      omega

theorem mem_lower_of_mem_ofNat (n : Nat) : ∀ c ∈ ofNat n, c ∈ "0123456789abcdef".toList := by
  induction n using Nat.strongRecOn with
  | ind n ih =>
    intro c hc
    by_cases h : n < 16
    · rw [ofNat_of_lt h] at hc
      exact List.mem_singleton.1 hc ▸ digitChar_mem n h
    · rw [ofNat_of_le (by omega)] at hc
      rcases List.mem_append.1 hc with hc | hc
      · exact ih _ (by omega) c hc
      · exact List.mem_singleton.1 hc ▸ digitChar_mem (n % 16) (by omega)

/-- To no base does the numeral of a number begin with a zero, but that of zero itself. -/
theorem eq_zero_of_head?_toDigits {b n : Nat} (hb : 1 < b) (hb' : b ≤ 16)
    (h : (Nat.toDigits b n).head? = some '0') : n = 0 := by
  induction n using Nat.strongRecOn with
  | ind n ih =>
    by_cases hlt : n < b
    · rw [Nat.toDigits_of_lt_base hlt] at h
      exact digitChar_eq_zero n (Nat.lt_of_lt_of_le hlt hb') (Option.some.inj h)
    · have hle := Nat.not_lt.1 hlt
      have hquotient : n / b = 0 := by
        apply ih _ (Nat.div_lt_self (by omega) hb)
        obtain ⟨c, digits, hdigits⟩ :=
          List.exists_cons_of_ne_nil (Nat.toDigits_ne_nil (n := n / b) (b := b))
        rw [Nat.toDigits_of_base_le hb hle, hdigits] at h
        rw [hdigits]
        exact h
      exact absurd (Nat.div_pos hle (by omega)) (by omega)

theorem writes_ofNat (n : Nat) : Writes (ofNat n) n where
  value_eq := value_ofNat n
  lower := mem_lower_of_mem_ofNat n
  ne_nil := ofNat_ne_nil n
  short h := by
    obtain rfl := eq_zero_of_head?_toDigits (by decide) (by decide) h
    rfl

/-! ## There is one such numeral -/

/-- What holds of the digits among the ASCII characters holds of all digits. -/
@[elab_as_elim]
theorem of_isDigit {motive : Char → Prop} {c : Char} (hc : isDigit c)
    (h : ∀ n < 128, isDigit (Char.ofNat n) → motive (Char.ofNat n)) : motive c := by
  have hlt : c.toNat < 128 := by
    simp only [isDigit, Bool.or_eq_true, Bool.and_eq_true, decide_eq_true_eq] at hc
    have toNat_le {a b : Char} : a ≤ b ↔ a.toNat ≤ b.toNat := Iff.rfl
    simp only [toNat_le, Char.reduceToNat] at hc
    omega
  rw [← Char.ofNat_toNat c] at hc ⊢
  exact h _ hlt hc

theorem digitValue_lt {c : Char} (h : isDigit c) : digitValue c < 16 :=
  of_isDigit h (by decide)

theorem isDigit_of_mem_lower : ∀ c ∈ "0123456789abcdef".toList, isDigit c :=
  List.all_eq_true.1 (by decide)

theorem digitChar_digitValue {c : Char} (h : c ∈ "0123456789abcdef".toList) :
    (digitValue c).digitChar = c := by
  have hlower : "0123456789abcdef".toList.all fun c => (digitValue c).digitChar = c := by decide
  exact of_decide_eq_true (List.all_eq_true.1 hlower c h)

/-- Without its last digit, a numeral of more than one still has no needless zeros. -/
theorem Writes.dropLast {digits : List Char} {c : Char} {n : Nat} (h : Writes (digits ++ [c]) n)
    (hne : digits ≠ []) : Writes digits (value digits) ∧ digits.head? ≠ some '0' := by
  have hhead : digits.head? ≠ some '0' := by
    intro hzero
    have hzero' : (digits ++ [c]).head? = some '0' := by
      rw [List.head?_append, hzero, Option.some_or]
    have hsingle := congrArg List.length (h.short hzero')
    rw [List.length_append, List.length_singleton, List.length_singleton] at hsingle
    exact hne (List.length_eq_zero_iff.1 (by omega))
  exact ⟨{
    value_eq := rfl
    lower := fun d hd => h.lower d (List.mem_append_left _ hd)
    ne_nil := hne
    short := fun hzero => absurd hzero hhead }, hhead⟩

/-- A number has no second numeral in lower case without needless zeros. -/
theorem Writes.eq_ofNat {digits : List Char} {n : Nat} (h : Writes digits n) :
    digits = ofNat n := by
  induction digits using List.reverseRecOn generalizing n with
  | nil => exact absurd rfl h.ne_nil
  | append_singleton digits c ih =>
    -- `ofNat` puts a numeral together from the front, too.
    have hc := h.lower c (by simp)
    have hlt := digitValue_lt (isDigit_of_mem_lower c hc)
    have hvalue := h.value_eq
    rw [value_append_singleton, shiftIn] at hvalue
    by_cases hne : digits = []
    · subst hne
      rw [value_nil, Nat.mul_zero, Nat.zero_add] at hvalue
      rw [List.nil_append, ← hvalue, ofNat_of_lt hlt, digitChar_digitValue hc]
    · obtain ⟨hdigits, hhead⟩ := h.dropLast hne
      have hfront := ih hdigits
      have hpos : value digits ≠ 0 := by
        intro hzero
        rw [hzero] at hfront
        exact hhead (hfront ▸ rfl)
      have hquotient : n / 16 = value digits := by omega
      have hrest : n % 16 = digitValue c := by omega
      rw [ofNat_of_le (by omega), hquotient, hrest, digitChar_digitValue hc, ← hfront]

/-! ## From any numeral to that one -/

/-- The digits in lower case without the zeros in front, of which one stays if there is no other
digit. -/
def shorten (digits : List Char) : List Char :=
  match digits.dropWhile (· == '0') with
  | [] => ['0']
  | c :: rest => (c :: rest).map Char.toLower

/-- In lower case a digit is the one that its value is written with. -/
theorem toLower_eq_digitChar {c : Char} (h : isDigit c) :
    c.toLower = (digitValue c).digitChar :=
  of_isDigit h (by decide)

theorem eq_zero_of_digitValue {c : Char} (h : isDigit c) : digitValue c = 0 → c = '0' :=
  of_isDigit h (by decide)

theorem value_dropWhile_zero (digits : List Char) :
    value (digits.dropWhile (· == '0')) = value digits := by
  induction digits with
  | nil => rfl
  | cons c digits ih =>
    by_cases hc : c = '0'
    · subst hc
      exact ih
    · rw [List.dropWhile_cons_of_neg (by simpa using hc)]

theorem value_map_toLower {digits : List Char} (h : ∀ c ∈ digits, isDigit c) :
    value (digits.map Char.toLower) = value digits := by
  rw [value, List.foldl_map]
  refine List.foldl_ext _ _ _ fun n c hc => ?_
  rw [shiftIn, shiftIn, toLower_eq_digitChar (h c hc),
    digitValue_digitChar _ (digitValue_lt (h c hc))]

/-- Any digits are shortened to the numeral of their number. -/
theorem writes_shorten {digits : List Char} (h : ∀ c ∈ digits, isDigit c) :
    Writes (shorten digits) (value digits) := by
  have hvalue := value_dropWhile_zero digits
  have hhead := List.head?_dropWhile_not (· == '0') digits
  have hrest : ∀ c ∈ digits.dropWhile (· == '0'), isDigit c :=
    fun c hc => h c (List.dropWhile_subset _ hc)
  rw [shorten]
  split
  · next hnil =>
    rw [hnil] at hvalue
    exact hvalue ▸ writes_ofNat 0
  · next c rest hcons =>
    rw [hcons] at hvalue hrest hhead
    exact {
      value_eq := (value_map_toLower hrest).trans hvalue
      lower := by
        intro d hd
        obtain ⟨e, he, rfl⟩ := List.mem_map.1 hd
        rw [toLower_eq_digitChar (hrest e he)]
        exact digitChar_mem _ (digitValue_lt (hrest e he))
      ne_nil := List.cons_ne_nil _ _
      short := by
        intro hzero
        have hc := hrest c List.mem_cons_self
        have hchar : (digitValue c).digitChar = '0' :=
          toLower_eq_digitChar hc ▸ Option.some.inj hzero
        obtain rfl := eq_zero_of_digitValue hc (digitChar_eq_zero _ (digitValue_lt hc) hchar)
        simp at hhead }

/-! ## The weights of digits -/

/-- The place of a digit of either case in the order of digits. -/
def place (c : Char) : Nat :=
  "0123456789abcdef".toList.idxOf c.toLower

/-- The number that digits stand for if each weighs sixteen times as much as the one behind it. -/
def positional (digits : List Char) : Nat :=
  Nat.ofDigits 16 (digits.reverse.map place)

theorem place_eq_digitValue {c : Char} (h : isDigit c) : place c = digitValue c :=
  of_isDigit h (by decide)

theorem value_eq_positional {digits : List Char} (h : ∀ c ∈ digits, isDigit c) :
    value digits = positional digits := by
  induction digits using List.reverseRecOn with
  | nil => rfl
  | append_singleton digits c ih =>
    have hfront := ih fun d hd => h d (List.mem_append_left _ hd)
    have hc := place_eq_digitValue (h c (by simp))
    calc value (digits ++ [c])
      _ = 16 * positional digits + digitValue c := by
        rw [value_append_singleton, shiftIn, hfront]
      _ = place c + 16 * positional digits := by rw [hc, Nat.add_comm]
      _ = positional (digits ++ [c]) := by
        rw [positional, positional, List.reverse_concat, List.map_cons, Nat.ofDigits_cons]

/-! ## Numerals of a given width -/

/-- The numeral of a number in lower case with the given number of digits; it has room for that
number. -/
def ofWidth : Nat → Nat → List Char
  | 0, _ => []
  | width + 1, n => ofWidth width (n / 16) ++ [(n % 16).digitChar]

theorem length_ofWidth (width n : Nat) : (ofWidth width n).length = width := by
  induction width generalizing n with
  | zero => rfl
  | succ width ih => rw [ofWidth, List.length_append, ih, List.length_singleton]

theorem value_ofWidth {width n : Nat} (h : n < 16 ^ width) : value (ofWidth width n) = n := by
  induction width generalizing n with
  | zero => exact (Nat.lt_one_iff.1 h).symm
  | succ width ih =>
    have hquotient : n / 16 < 16 ^ width := Nat.div_lt_of_lt_mul (by rwa [← pow_succ'])
    have hvalue := digitValue_digitChar (n % 16) (by omega)
    rw [ofWidth, value_append_singleton, ih hquotient, shiftIn]
    omega

theorem isDigit_digitChar : ∀ n < 16, isDigit n.digitChar := by decide

theorem isDigit_of_mem_ofWidth (width n : Nat) : ∀ c ∈ ofWidth width n, isDigit c := by
  induction width generalizing n with
  | zero => simp [ofWidth]
  | succ width ih =>
    intro c hc
    rcases List.mem_append.1 hc with hc | hc
    · exact ih (n / 16) c hc
    · exact List.mem_singleton.1 hc ▸ isDigit_digitChar (n % 16) (by omega)

end Symbolizer.Text.Hex
