/-!
# Similarity of words

Jaro's measure of how much two words are alike, from 0 to 1. Characters match if they are equal and
not far apart; the measure is the mean of three shares: of the matches in either word, and of the
matches that stand in the same order.
-/

namespace Symbolizer.Text.Similarity

/-- How far apart two characters may stand and still match. -/
def reach (n m : Nat) : Nat := max n m / 2 - 1

/-- The first place in `low ≤ j < high` that holds `c` and is not taken. -/
def place? (ys : Array Char) (taken : List Nat) (low high : Nat) (c : Char) : Option Nat :=
  (List.range' low (high - low)).find? fun j => ys[j]? = some c && !taken.contains j

/-- The places of the characters of `xs`, from place `i`, that match, each with its match in `ys`;
each character takes the first match that those before it left. -/
def matchesFrom (ys : Array Char) (far : Nat) (taken : List Nat) :
    Nat → List Char → List (Char × Nat)
  | _, [] => []
  | i, c :: xs =>
    match place? ys taken (i - far) (min ys.size (i + far + 1)) c with
    | none => matchesFrom ys far taken (i + 1) xs
    | some j => (c, j) :: matchesFrom ys far (j :: taken) (i + 1) xs

/-- How many matched characters differ from the matched character at the same rank in `ys`. -/
def outOfOrder (ys : Array Char) (found : List (Char × Nat)) : Nat :=
  let inOrder := (found.map (·.2)).mergeSort
  ((found.map (·.1)).zip inOrder).countP fun (c, j) => ys[j]? ≠ some c

/-- Jaro's measure; words without a match have none. -/
def jaro (x y : String) : Float :=
  let xs := x.toList
  let ys := y.toList.toArray
  let found := matchesFrom ys (reach xs.length ys.size) [] 0 xs
  let m := found.length
  if xs.isEmpty && ys.isEmpty then 1
  else if m = 0 then 0
  else
    let ordered := m - outOfOrder ys found / 2
    (m.toFloat / xs.length.toFloat + m.toFloat / ys.size.toFloat +
      ordered.toFloat / m.toFloat) / 3

end Symbolizer.Text.Similarity
