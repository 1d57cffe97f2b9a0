import Symbolizer.Json.Record
import Symbolizer.Proofs.Json.Quoted
import Symbolizer.Proofs.Text.Hex
import Symbolizer.Proofs.Text.Scan

/-!
# The tokens of what is written

Each value is written as one token (`Value.token`), which is read whole if what follows does not go
on with a number (`ofChars?_value_append`); all that is written behind a value does not. So the
tokens of items with commas between them are those of the items with commas between them
(`ofChars?_commaSeparated_append`).
-/

namespace Symbolizer.Json

open Text.Scan (Stops)

/-- The token that a value is written as. -/
def Value.token : Value → Token
  | text s => .string (some s)
  | number n => .number (some n.toNat)
  | absent => .null

namespace Token

/-- Whether a number might go on with a character. -/
def extendsNumber (c : Char) : Bool := c.isDigit || c == '.' || c == 'e' || c == 'E'

/-- Tokens that were found before stay in front. -/
theorem ofCharsBehind?_eq (before : Array Token) (cs : List Char) :
    ofCharsBehind? before cs = (ofChars? cs).map fun ts => before ++ ts.toArray := by
  have key : ∀ n (cs : List Char), cs.length = n → ∀ before : Array Token,
      ofCharsBehind? before cs = (ofCharsBehind? #[] cs).map (before ++ ·) := by
    intro n
    induction n using Nat.strongRecOn with
    | ind n ih =>
      rintro cs rfl before
      cases cs with
      | nil => simp [ofCharsBehind?]
      | cons c cs =>
        rw [ofCharsBehind?, ofCharsBehind?]
        split
        · exact ih _ (Nat.lt_succ_self _) cs rfl before
        · split
          · rfl
          · next t rest h =>
            have hlt := Nat.lt_succ_of_le (length_startingWith?_le h)
            rw [ih _ hlt rest rfl (before.push t), ih _ hlt rest rfl (#[].push t), Option.map_map]
            simp only [Function.comp_def, Array.push_eq_append, Array.append_assoc,
              Array.empty_append]
  rw [key _ cs rfl before, ofChars?, Option.map_map]
  simp [Function.comp_def]

theorem ofChars?_nil : ofChars? [] = some [] := by
  simp [ofChars?, ofCharsBehind?]

/-- The tokens of a text are the one it begins with and those of the rest. -/
theorem ofChars?_cons {c : Char} {cs rest : List Char} {t : Token} (hspace : isSpace c = false)
    (h : startingWith? c cs = some (t, rest)) :
    ofChars? (c :: cs) = (ofChars? rest).map (t :: ·) := by
  rw [ofChars?, ofCharsBehind?, hspace]
  simp only [Bool.false_eq_true, if_false]
  split
  · next hnone => cases hnone.symm.trans h
  · next hsome =>
    obtain ⟨rfl, rfl⟩ := Prod.mk.inj (Option.some.inj (hsome.symm.trans h))
    rw [ofCharsBehind?_eq, Option.map_map]
    simp [Function.comp_def]

/-! ## Strings -/

theorem ofChars?_quote_append (s : String) (rest : List Char) :
    ofChars? (quote s ++ rest) = (ofChars? rest).map (.string (some s) :: ·) := by
  obtain ⟨pieces, htext, hread⟩ := exists_read?_quote s
  have htoken : startingWith? '"' (s.toList.flatMap escape ++ ['"'] ++ rest) =
      some (.string (some s), rest) := by
    rw [List.append_assoc, List.singleton_append]
    show (read? _).map _ = _
    simp only [hread, Option.map_some, htext]
  exact ofChars?_cons rfl htoken

/-! ## Numbers -/

theorem digits?_append {run rest : List Char} (hne : run ≠ []) (hrun : ∀ c ∈ run, c.isDigit)
    (hrest : Stops extendsNumber rest) : digits? (run ++ rest) = some (run, rest) := by
  have hstops : Stops Char.isDigit rest := fun c hc => by
    have h := hrest c hc
    simp only [extendsNumber, Bool.or_eq_false_iff] at h
    exact h.1.1.1
  rw [digits?, Text.Scan.takeWhile_append hrun hstops, Text.Scan.dropWhile_append hrun hstops]
  simp [hne]

theorem fraction?_of_stops {rest : List Char} (h : Stops extendsNumber rest) :
    fraction? rest = some (false, rest) := by
  unfold fraction?
  split
  · exact absurd (h _ rfl) (by decide)
  · rfl

theorem exponent?_of_stops {rest : List Char} (h : Stops extendsNumber rest) :
    exponent? rest = some (false, rest) := by
  cases rest with
  | nil => rfl
  | cons c rest =>
    have hc := h c rfl
    simp only [extendsNumber, Bool.or_eq_false_iff] at hc
    simp [exponent?, hc.1.2, hc.2]

/-- A numeral without a needless zero is a number. -/
theorem number?_append (n : Nat) {rest : List Char} (hrest : Stops extendsNumber rest) :
    number? (Nat.toDigits 10 n ++ rest) = some (.number (some n), rest) := by
  have hdigits : ∀ c ∈ Nat.toDigits 10 n, c.isDigit := fun c hc =>
    Nat.isDigit_of_mem_toDigits (by decide) (by decide) hc
  have hne : Nat.toDigits 10 n ≠ [] := Nat.toDigits_ne_nil
  have hzero : ¬ ((Nat.toDigits 10 n).head? = some '0' ∧ Nat.toDigits 10 n ≠ ['0']) := by
    rintro ⟨hhead, hnot⟩
    obtain rfl := Text.Hex.eq_zero_of_head?_toDigits (by decide) (by decide) hhead
    exact hnot rfl
  have hnegative : ∀ cs, Nat.toDigits 10 n ++ rest ≠ '-' :: cs := by
    intro cs heq
    obtain ⟨d, ds, hcons⟩ := List.exists_cons_of_ne_nil hne
    rw [hcons] at heq hdigits
    obtain rfl := (List.cons.inj heq).1
    exact absurd (hdigits _ List.mem_cons_self) (by decide)
  have hvalue : Nat.ofDigitChars 10 (Nat.toDigits 10 n) 0 = n :=
    Nat.ofDigitChars_toDigits (by decide) (by decide)
  unfold number?
  split
  next negative cs heq =>
    split at heq
    · next more heq' => exact absurd heq' (hnegative more)
    · obtain ⟨rfl, rfl⟩ := Prod.mk.inj heq
      simp only [digits?_append hne hdigits hrest, fraction?_of_stops hrest,
        exponent?_of_stops hrest, Option.bind_eq_bind, Option.bind_some, if_neg hzero, hvalue]
      rfl

theorem startingWith?_digit {c : Char} (hc : c.isDigit) (cs : List Char) :
    startingWith? c cs = number? (c :: cs) := by
  fun_cases startingWith? c cs with
  | case11 => rfl
  -- What begins with a mark, a quote or a letter begins with no digit.
  | _ => exact absurd hc (by decide)

theorem isSpace_of_isDigit {c : Char} (hc : c.isDigit) : isSpace c = false := by
  refine Bool.eq_false_iff.2 fun hspace => ?_
  simp only [isSpace, Bool.or_eq_true, beq_iff_eq] at hspace
  rcases hspace with ((rfl | rfl) | rfl) | rfl <;> exact absurd hc (by decide)

theorem ofChars?_toDigits_append (n : Nat) {rest : List Char} (hrest : Stops extendsNumber rest) :
    ofChars? (Nat.toDigits 10 n ++ rest) = (ofChars? rest).map (.number (some n) :: ·) := by
  have hnumber := number?_append n hrest
  obtain ⟨d, ds, hcons⟩ := List.exists_cons_of_ne_nil (Nat.toDigits_ne_nil (n := n) (b := 10))
  have hd : d.isDigit := Nat.isDigit_of_mem_toDigits (b := 10) (n := n) (by decide) (by decide)
    (hcons ▸ List.mem_cons_self)
  rw [hcons] at hnumber ⊢
  exact ofChars?_cons (isSpace_of_isDigit hd) ((startingWith?_digit hd _).trans hnumber)

/-! ## Values and items -/

/-- A value is read whole if a number might not go on behind it. -/
theorem ofChars?_value_append (v : Value) {rest : List Char} (hrest : Stops extendsNumber rest) :
    ofChars? (v.chars ++ rest) = (ofChars? rest).map (v.token :: ·) := by
  cases v with
  | text s => exact ofChars?_quote_append s rest
  | number n => exact ofChars?_toDigits_append n.toNat hrest
  | absent => exact ofChars?_cons rfl rfl

/-- Items with commas between them are read as they are each by itself. -/
theorem ofChars?_commaSeparated_append {ι : Type} (chars : ι → List Char) (tokens : ι → List Token)
    (hitem : ∀ i rest, Stops extendsNumber rest →
      ofChars? (chars i ++ rest) = (ofChars? rest).map (tokens i ++ ·))
    (items : List ι) {rest : List Char} (hrest : Stops extendsNumber rest) :
    ofChars? (commaSeparated (items.map chars) ++ rest) =
      (ofChars? rest).map ([comma].intercalate (items.map tokens) ++ ·) := by
  induction items with
  | nil => simp [commaSeparated]
  | cons i items ih =>
    cases items with
    | nil => simpa [commaSeparated] using hitem i rest hrest
    | cons j items =>
      have hcomma : ofChars? (',' :: (commaSeparated ((j :: items).map chars) ++ rest)) = _ :=
        ofChars?_cons rfl rfl
      have hstops : Stops extendsNumber
          (',' :: (commaSeparated ((j :: items).map chars) ++ rest)) := Text.Scan.stops_cons rfl _
      have hchars : commaSeparated ((i :: j :: items).map chars) ++ rest =
          chars i ++ (',' :: (commaSeparated ((j :: items).map chars) ++ rest)) := by
        simp [commaSeparated, List.intercalate_cons_cons]
      rw [hchars, hitem i _ hstops, hcomma, ih, Option.map_map, Option.map_map]
      simp [Function.comp_def, List.intercalate_cons_cons]

end Token

end Symbolizer.Json
