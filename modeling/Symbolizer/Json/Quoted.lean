import Symbolizer.Text.Hex

/-!
# Strings in JSON

`quote` writes a text between quotes with the escapes it needs and no others. `read?` reads one from
behind its opening quote. An escape may stand for half of a surrogate pair; `Piece.text?` puts pairs
together and refuses a half that is alone, because it is no text.
-/

namespace Symbolizer.Json

/-! ## Writing -/

/-- A character as it is written inside a string. -/
def escape (c : Char) : List Char :=
  match c with
  | '"' => ['\\', '"']
  | '\\' => ['\\', '\\']
  | '\x08' => ['\\', 'b']
  | '\x0c' => ['\\', 'f']
  | '\n' => ['\\', 'n']
  | '\r' => ['\\', 'r']
  | '\t' => ['\\', 't']
  | c =>
    if c < ' ' then
      ['\\', 'u', '0', '0', Nat.digitChar (c.toNat / 16), Nat.digitChar (c.toNat % 16)]
    else [c]

/-- A text between quotes. -/
def quote (s : String) : List Char :=
  '"' :: s.toList.flatMap escape ++ ['"']

/-! ## Reading -/

/-- What a character or an escape of a string stands for: a character, or a unit of UTF-16. -/
inductive Piece
  | char (c : Char)
  | unit (u : Nat)
  deriving DecidableEq, Repr

/-- The unit that four hexadecimal digits name. -/
def unit? (digits : List Char) : Option Nat :=
  if digits.all Text.Hex.isDigit then some (Text.Hex.value digits) else none

/-- The character that a backslash and `c` stand for. -/
def unescape? (c : Char) : Option Char :=
  match c with
  | '"' => some '"'
  | '\\' => some '\\'
  | '/' => some '/'
  | 'b' => some '\x08'
  | 'f' => some '\x0c'
  | 'n' => some '\n'
  | 'r' => some '\r'
  | 't' => some '\t'
  | _ => none

namespace Piece

/-- Whether a unit is the first half of a pair. -/
def isHigh (u : Nat) : Bool := 0xD800 ≤ u && u < 0xDC00

/-- Whether a unit is the second half of a pair. -/
def isLow (u : Nat) : Bool := 0xDC00 ≤ u && u < 0xE000

/-- The character of a pair. -/
def pair (high low : Nat) : Char :=
  Char.ofNat (0x10000 + (high - 0xD800) * 0x400 + (low - 0xDC00))

/-- The text of pieces behind `before`, which is given backwards. -/
def textBehind? (before : List Char) : List Piece → Option (List Char)
  | [] => some before.reverse
  | char c :: rest => textBehind? (c :: before) rest
  | unit u :: rest =>
    if isHigh u then
      match rest with
      | unit l :: rest => if isLow l then textBehind? (pair u l :: before) rest else none
      | _ => none
    else if isLow u then none
    else textBehind? (Char.ofNat u :: before) rest

/-- The text of pieces, unless a half of a pair is alone. -/
def text? (pieces : List Piece) : Option String :=
  (textBehind? [] pieces).map String.ofList

end Piece

/-- The pieces up to the closing quote, behind `before`, which is given backwards, and the rest. -/
def readBehind? (before : List Piece) : List Char → Option (List Piece × List Char)
  | [] => none
  | '"' :: rest => some (before.reverse, rest)
  | '\\' :: 'u' :: a :: b :: c :: d :: rest => do
    readBehind? (.unit (← unit? [a, b, c, d]) :: before) rest
  | '\\' :: c :: rest => do readBehind? (.char (← unescape? c) :: before) rest
  | c :: rest => if c < ' ' then none else readBehind? (.char c :: before) rest

/-- The pieces of a string, from behind its opening quote, and the rest. -/
def read? (cs : List Char) : Option (List Piece × List Char) :=
  readBehind? [] cs

/-- Reading a string uses up its closing quote at the least. -/
theorem length_readBehind?_lt {before pieces : List Piece} {cs rest : List Char}
    (h : readBehind? before cs = some (pieces, rest)) : rest.length < cs.length := by
  fun_induction readBehind? before cs with
  | case1 => simp at h
  | case2 before rest' =>
    obtain ⟨-, rfl⟩ : _ ∧ _ := by simpa using h
    simp
  | case3 before a b c d rest' ih =>
    obtain ⟨u, -, h⟩ := Option.bind_eq_some_iff.1 h
    have := ih u h
    simp only [List.length_cons]
    omega
  | case4 before c rest' _ ih =>
    obtain ⟨u, -, h⟩ := Option.bind_eq_some_iff.1 h
    have := ih u h
    simp only [List.length_cons]
    omega
  | case5 => simp at h
  | case6 before c rest' _ _ _ _ ih =>
    have := ih h
    simp only [List.length_cons]
    omega

end Symbolizer.Json
