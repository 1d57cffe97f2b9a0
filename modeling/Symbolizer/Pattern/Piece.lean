import Symbolizer.Pattern.Mode
import Symbolizer.Text.Hex

/-!
# Pieces of a pattern

A piece is what stands for one character, or for a place between two. `escape?` reads one behind a
backslash. Whether a piece may be used depends on the mode: a pattern about bytes must not match a
part of a character, and the edges of words are known only among the characters of ASCII.
-/

namespace Symbolizer.Pattern

/-- What stands for one character or for a place between two. -/
inductive Piece
  /-- A character, perhaps written as a byte in hexadecimal. -/
  | character (c : Char) (asByte : Bool)
  /-- Any character but the end of a line. -/
  | any
  /-- A digit, blank or word character, or a character that is none. -/
  | kind (negated : Bool)
  /-- A character with a property of Unicode. -/
  | property
  /-- A beginning or end, perhaps of a word. -/
  | edge (ofWord : Bool)
  deriving DecidableEq, Repr

namespace Piece

/-- Whether a piece may stand by itself. -/
def standsAlone (mode : Mode) : Piece → Bool
  | character c asByte => mode.unicode || !asByte || c.toNat < 0x80
  | any | property => mode.unicode
  | kind negated => mode.unicode || !negated
  | edge ofWord => !mode.unicode || !ofWord

/-- Whether a piece may be a member of a class. -/
def standsInClass (mode : Mode) : Piece → Bool
  | character c _ => mode.unicode || c.toNat < 0x80
  | kind negated => mode.unicode || !negated
  | property => mode.unicode
  | any | edge _ => false

end Piece

/-- The number that `n` hexadecimal digits make up, behind the number `value`, and the rest. -/
def hex? (mode : Mode) (value : Nat) : Nat → List Char → Option (Nat × List Char)
  | 0, cs => some (value, cs)
  | _ + 1, [] => none
  | n + 1, c :: cs =>
    if Text.Hex.isDigit c then hex? mode (Text.Hex.shiftIn value c) n (mode.skip cs) else none

/-- The letters of the general categories of Unicode. -/
def categories : List Char := ['c', 'l', 'm', 'n', 'p', 's', 'z']

/-- The character with a number of `n` digits, and the rest. -/
def numbered? (mode : Mode) (n : Nat) (cs : List Char) : Option (Piece × List Char) :=
  match hex? mode 0 n (mode.skip cs) with
  | some (value, rest) =>
    if value.isValidChar then some (.character (Char.ofNat value) (n = 2), rest) else none
  | none => none

/-- The piece behind a backslash, and the rest. Signs stand for themselves; other letters and digits
have no meaning. -/
def escape? (mode : Mode) : List Char → Option (Piece × List Char)
  | [] => none
  | c :: cs =>
    match c with
    | 'x' => numbered? mode 2 cs
    | 'u' => numbered? mode 4 cs
    | 'U' => numbered? mode 8 cs
    | 'p' | 'P' =>
      match mode.skip cs with
      | letter :: cs =>
        if letter.toLower ∈ categories then some (.property, mode.skip cs) else none
      | [] => none
    | 'd' | 's' | 'w' => some (.kind false, cs)
    | 'D' | 'S' | 'W' => some (.kind true, cs)
    | 'A' | 'z' => some (.edge false, cs)
    | 'b' | 'B' | '<' | '>' => some (.edge true, cs)
    | 'a' => some (.character '\x07' false, cs)
    | 'f' => some (.character '\x0c' false, cs)
    | 't' => some (.character '\t' false, cs)
    | 'n' => some (.character '\n' false, cs)
    | 'r' => some (.character '\r' false, cs)
    | 'v' => some (.character '\x0b' false, cs)
    | c => if c.toNat < 0x80 ∧ !c.isAlphanum then some (.character c false, cs) else none

/-! ## What a piece takes -/

theorem length_hex?_le {mode : Mode} {value n result : Nat} {cs rest : List Char}
    (h : hex? mode value n cs = some (result, rest)) : rest.length ≤ cs.length := by
  fun_induction hex? mode value n cs with
  | case1 =>
    obtain ⟨-, rfl⟩ : _ ∧ _ := by simpa using h
    exact Nat.le_refl _
  | case2 | case4 => contradiction
  | case3 _ _ _ cs _ ih =>
    have := ih h
    have := mode.length_skip_le cs
    simp only [List.length_cons]
    omega

theorem length_numbered?_le {mode : Mode} {n : Nat} {cs rest : List Char} {p : Piece}
    (h : numbered? mode n cs = some (p, rest)) : rest.length ≤ cs.length := by
  unfold numbered? at h
  split at h
  · next hx =>
    split at h
    · obtain ⟨-, rfl⟩ : _ ∧ _ := by simpa using h
      exact Nat.le_trans (length_hex?_le hx) (mode.length_skip_le cs)
    · contradiction
  · contradiction

theorem length_escape?_le {mode : Mode} {cs rest : List Char} {p : Piece}
    (h : escape? mode cs = some (p, rest)) : rest.length ≤ cs.length := by
  revert h
  fun_cases escape? mode cs with
  | case1 | case6 | case7 | case9 | case10 | case30 => -- no piece
    rintro ⟨⟩
  | case2 | case3 | case4 => -- a character by its number
    intro h
    exact Nat.le_succ_of_le (length_numbered?_le h)
  | case5 cs letter ds hletter | case8 cs letter ds hletter => -- a property
    rintro ⟨⟩
    have hskip := mode.length_skip_le cs
    have := mode.length_skip_le ds
    simp only [hletter, List.length_cons] at hskip ⊢
    omega
  | _ => -- a single letter or sign
    rintro ⟨⟩
    exact Nat.le_succ _

end Symbolizer.Pattern
