import Symbolizer.Json.Quoted

/-!
# Tokens of JSON

`Token.ofChars?` cuts a text into tokens and leaves out the blanks between them. Only the tokens of
an accepted document are looked at further, so a string that is no text, or a number that is no
natural number, is kept as such: it does no harm where nobody reads it.
-/

namespace Symbolizer.Json

/-- A token; a string or number holds its value where it has one of use. -/
inductive Token
  | openBrace
  | closeBrace
  | openBracket
  | closeBracket
  | colon
  | comma
  | null
  | boolean (b : Bool)
  /-- A string, with its text unless a half of a surrogate pair is alone in it. -/
  | string (text : Option String)
  /-- A number, with its value if it is written as a natural number. -/
  | number (value : Option Nat)
  deriving DecidableEq, Repr

namespace Token

/-- White space between tokens. -/
def isSpace (c : Char) : Bool := c == ' ' || c == '\t' || c == '\n' || c == '\r'

/-- A run of at least one decimal digit, and the rest. -/
def digits? (cs : List Char) : Option (List Char × List Char) :=
  let run := cs.takeWhile Char.isDigit
  if run.isEmpty then none else some (run, cs.dropWhile Char.isDigit)

/-- The rest behind a fraction, if there is one; whether there is. -/
def fraction? (cs : List Char) : Option (Bool × List Char) :=
  match cs with
  | '.' :: cs => (digits? cs).map fun (_, rest) => (true, rest)
  | cs => some (false, cs)

/-- The rest behind an exponent, if there is one; whether there is. -/
def exponent? (cs : List Char) : Option (Bool × List Char) :=
  match cs with
  | c :: cs =>
    if c == 'e' || c == 'E' then
      let cs := match cs with
        | s :: rest => if s == '+' || s == '-' then rest else cs
        | [] => []
      (digits? cs).map fun (_, rest) => (true, rest)
    else some (false, c :: cs)
  | [] => some (false, [])

/-- A number and the rest. Zero is the only whole part that begins with a zero. -/
def number? (cs : List Char) : Option (Token × List Char) := do
  let (negative, cs) := match cs with
    | '-' :: rest => (true, rest)
    | cs => (false, cs)
  let (whole, cs) ← digits? cs
  if whole.head? = some '0' ∧ whole ≠ ['0'] then none
  else
    let (broken, cs) ← fraction? cs
    let (scaled, cs) ← exponent? cs
    let natural := !negative && !broken && !scaled
    some (number (if natural then some (Nat.ofDigitChars 10 whole 0) else none), cs)

/-- The token that begins with `c`, and the rest. -/
def startingWith? (c : Char) (cs : List Char) : Option (Token × List Char) :=
  match c with
  | '\x7b' => some (openBrace, cs)
  | '\x7d' => some (closeBrace, cs)
  | '[' => some (openBracket, cs)
  | ']' => some (closeBracket, cs)
  | ':' => some (colon, cs)
  | ',' => some (comma, cs)
  | '"' => (read? cs).map fun (pieces, rest) => (string (Piece.text? pieces), rest)
  | 'n' => ("ull".toList.isPrefixOf? cs).map (null, ·)
  | 't' => ("rue".toList.isPrefixOf? cs).map (boolean true, ·)
  | 'f' => ("alse".toList.isPrefixOf? cs).map (boolean false, ·)
  | c => number? (c :: cs)

/-! ## Every token uses up what it is made of -/

theorem length_digits?_lt {cs run rest : List Char} (h : digits? cs = some (run, rest)) :
    rest.length < cs.length := by
  simp only [digits?, List.isEmpty_iff] at h
  split at h
  · contradiction
  · next hne =>
    obtain ⟨-, rfl⟩ : _ ∧ _ := by simpa using h
    have hlen : (cs.takeWhile Char.isDigit).length + (cs.dropWhile Char.isDigit).length =
        cs.length := by
      rw [← List.length_append, List.takeWhile_append_dropWhile]
    have := List.length_pos_iff.2 hne
    omega

theorem length_fraction?_le {cs rest : List Char} {b : Bool}
    (h : fraction? cs = some (b, rest)) : rest.length ≤ cs.length := by
  unfold fraction? at h
  split at h
  · obtain ⟨⟨run, r⟩, hd, he⟩ := Option.map_eq_some_iff.1 h
    obtain ⟨-, rfl⟩ : _ ∧ _ := by simpa using he
    have := length_digits?_lt hd
    simp only [List.length_cons]
    omega
  · obtain ⟨-, rfl⟩ : _ ∧ _ := by simpa using h
    exact Nat.le_refl _

theorem length_exponent?_le {cs rest : List Char} {b : Bool}
    (h : exponent? cs = some (b, rest)) : rest.length ≤ cs.length := by
  unfold exponent? at h
  split at h
  · next c cs =>
    split at h
    · obtain ⟨⟨run, r⟩, hd, he⟩ := Option.map_eq_some_iff.1 h
      obtain ⟨-, rfl⟩ : _ ∧ _ := by simpa using he
      have := length_digits?_lt hd
      simp only [List.length_cons]
      split at this
      · split at this <;> simp only [List.length_cons] at * <;> omega
      · simp at this
    · obtain ⟨-, rfl⟩ : _ ∧ _ := by simpa using h
      exact Nat.le_refl _
  · obtain ⟨-, rfl⟩ : _ ∧ _ := by simpa using h
    exact Nat.le_refl _

theorem length_number?_lt {cs rest : List Char} {t : Token} (h : number? cs = some (t, rest)) :
    rest.length < cs.length := by
  simp only [number?] at h
  obtain ⟨⟨whole, cs₁⟩, hw, h⟩ := Option.bind_eq_some_iff.1 h
  split at h
  · contradiction
  · obtain ⟨⟨broken, cs₂⟩, hf, h⟩ := Option.bind_eq_some_iff.1 h
    obtain ⟨⟨scaled, cs₃⟩, he, h⟩ := Option.bind_eq_some_iff.1 h
    obtain ⟨-, rfl⟩ : _ ∧ _ := by simpa using h
    have h₁ := length_digits?_lt hw
    have h₂ := length_fraction?_le hf
    have h₃ := length_exponent?_le he
    split at h₁ <;> simp only [List.length_cons] at * <;> omega

theorem length_isPrefixOf?_le {xs ys rest : List Char} (h : xs.isPrefixOf? ys = some rest) :
    rest.length ≤ ys.length := by
  induction xs generalizing ys with
  | nil =>
    obtain rfl : ys = rest := Option.some.inj h
    exact Nat.le_refl _
  | cons x xs ih =>
    cases ys with
    | nil => cases h
    | cons y ys =>
      have h : (if x == y then xs.isPrefixOf? ys else none) = some rest := h
      split at h
      · have := ih h
        simp only [List.length_cons]
        omega
      · contradiction

theorem length_startingWith?_le {c : Char} {cs rest : List Char} {t : Token}
    (h : startingWith? c cs = some (t, rest)) : rest.length ≤ cs.length := by
  revert h
  fun_cases startingWith? c cs with
  | case7 => -- a string
    intro h
    obtain ⟨⟨pieces, r⟩, hr, he⟩ := Option.map_eq_some_iff.1 h
    cases he
    exact Nat.le_of_lt (length_readBehind?_lt hr)
  | case8 | case9 | case10 => -- a word
    intro h
    obtain ⟨r, hr, he⟩ := Option.map_eq_some_iff.1 h
    cases he
    exact length_isPrefixOf?_le hr
  | case11 => -- a number
    intro h
    exact Nat.le_of_lt_succ (length_number?_lt h)
  | _ => -- a mark by itself
    rintro ⟨⟩
    exact Nat.le_refl _

/-! ## Texts -/

/-- The tokens of a text behind those given. -/
def ofCharsBehind? (before : Array Token) : List Char → Option (Array Token)
  | [] => some before
  | c :: cs =>
    if isSpace c then ofCharsBehind? before cs
    else
      match h : startingWith? c cs with
      | none => none
      | some (t, rest) =>
        have := length_startingWith?_le h
        ofCharsBehind? (before.push t) rest
termination_by cs => cs.length
decreasing_by all_goals simp only [List.length_cons]; omega

/-- The tokens of a text, if it is made up of tokens. -/
def ofChars? (cs : List Char) : Option (List Token) :=
  (ofCharsBehind? #[] cs).map Array.toList

end Token
end Symbolizer.Json
