import Symbolizer.Text.Hex
import Symbolizer.Text.Property

/-!
# Scanning a text

Steps of a grammar over lists of characters. Each takes the longest piece it is for from the front
and gives the rest, or fails: `blanks?` (at least one blank), `word?` (a fixed word), `digits?` (at
least one hexadecimal digit, which it keeps). `takeSome?` is the step they share.
-/

namespace Symbolizer.Text.Scan

/-- The longest run of characters in `p`, which must not be empty, and the rest. -/
def takeSome? (p : Char → Bool) (cs : List Char) : Option (List Char × List Char) :=
  let run := cs.takeWhile p
  if run.isEmpty then none else some (run, cs.dropWhile p)

/-- The rest behind a run of at least one blank. -/
def blanks? (cs : List Char) : Option (List Char) :=
  (takeSome? isBlank cs).map (·.2)

/-- The rest behind `word`. -/
def word? (word : List Char) (cs : List Char) : Option (List Char) :=
  word.isPrefixOf? cs

/-- A run of at least one hexadecimal digit, and the rest. -/
def digits? (cs : List Char) : Option (List Char × List Char) :=
  takeSome? Hex.isDigit cs

theorem takeSome?_eq_some_iff {p : Char → Bool} {cs run rest : List Char} :
    takeSome? p cs = some (run, rest) ↔
      run ≠ [] ∧ run = cs.takeWhile p ∧ rest = cs.dropWhile p := by
  simp only [takeSome?, List.isEmpty_iff]
  split
  · next h => simp +contextual [h]
  · next h =>
    simp only [Option.some.injEq, Prod.mk.injEq]
    exact ⟨fun ⟨hr, ht⟩ => ⟨hr ▸ h, hr.symm, ht.symm⟩, fun ⟨_, hr, ht⟩ => ⟨hr.symm, ht.symm⟩⟩

end Symbolizer.Text.Scan
