import Symbolizer.Pattern.Piece

/-!
# Classes of characters

A class stands between brackets. It has members in a row (pieces, ranges of characters, names of
classes of ASCII, classes), which operators may divide into operands. `class?` reads one and gives
its depth.
-/

namespace Symbolizer.Pattern

/-- The depth of members in a row. One member alone is no row, and needs no level of its own. -/
def depthOfRow : List Nat → Nat
  | [] => 0
  | [d] => d
  | d :: ds => ds.foldl max d + 1

/-- How much of a class has been read. -/
inductive Stage
  | opened
  | negated
  /-- Hyphens that stand for themselves. -/
  | hyphens
  | members
  deriving DecidableEq, Repr

/-- A class whose end has not been read. -/
structure OpenClass where
  stage : Stage := .opened
  /-- Whether it is the class of all other characters. -/
  negated : Bool := false
  /-- The depth of what stands left of the last operator. -/
  left : Option Nat := none
  /-- The depths of the members behind it. -/
  members : List Nat := []
  deriving Repr

namespace OpenClass

/-- The depth of what has been read. -/
def depth (k : OpenClass) : Nat :=
  match k.left with
  | none => depthOfRow k.members
  | some d => max d (depthOfRow k.members) + 1

/-- The class with one more member. -/
def add (k : OpenClass) (stage : Stage) (depth : Nat) : OpenClass :=
  { k with stage, members := depth :: k.members }

/-- The class with all that has been read as the operand of an operator. -/
def divide (k : OpenClass) : OpenClass :=
  { k with stage := .members, left := some k.depth, members := [] }

end OpenClass

/-! ## Members -/

/-- The names of the classes of ASCII. -/
def asciiNames : List String :=
  ["alnum", "alpha", "ascii", "blank", "cntrl", "digit", "graph", "lower", "print", "punct",
   "space", "upper", "word", "xdigit"]

/-- The rest behind the name of a class of ASCII and the end of its bracket. -/
def asciiName? (cs : List Char) : Option (List Char) :=
  match cs.dropWhile (· ≠ ':') with
  | ':' :: ']' :: rest =>
    if String.ofList (cs.takeWhile (· ≠ ':')) ∈ asciiNames then some rest else none
  | _ => none

/-- A class of ASCII, read behind its bracket: whether it is that of all other characters, and the
rest. -/
def asciiClass? : List Char → Option (Bool × List Char)
  | ':' :: '^' :: cs => (asciiName? cs).map (true, ·)
  | ':' :: cs => (asciiName? cs).map (false, ·)
  | _ => none

/-- The piece that begins with `c` in a class, and the rest. -/
def classPiece? (mode : Mode) (c : Char) (cs : List Char) : Option (Piece × List Char) :=
  if c = '\\' then escape? mode cs else some (.character c false, cs)

/-- The rest behind a piece, or behind a range, that begins with `c`. A hyphen makes a range unless
the class ends behind it or another hyphen follows. -/
def member? (mode : Mode) (c : Char) (cs : List Char) : Option (List Char) :=
  match classPiece? mode c cs with
  | none => none
  | some (first, cs) =>
    match mode.skip cs with
    | '-' :: behind =>
      if mode.peek? behind = some ']' ∨ mode.peek? behind = some '-' then
        if first.standsInClass mode then some ('-' :: behind) else none
      else
        match mode.skip behind with
        | [] => none
        | d :: ds =>
          match first, classPiece? mode d ds with
          | .character low b, some (.character high b', rest) =>
            if low ≤ high ∧ (Piece.character low b).standsInClass mode ∧
                (Piece.character high b').standsInClass mode then some rest
            else none
          | _, _ => none
    | rest => if first.standsInClass mode then some rest else none

/-! ## Whole classes -/

/-- Reads on from `c` in the innermost class, `k`, that stands in the classes `around`. -/
def classStep? (mode : Mode) (k : OpenClass) (around : List OpenClass) (c : Char)
    (cs : List Char) : Option (OpenClass × List OpenClass × List Char) :=
  match k.stage, c with
  | .opened, '^' => some ({ k with stage := .negated, negated := true }, around, cs)
  | .opened, '-' | .negated, '-' | .hyphens, '-' => some (k.add .hyphens 0, around, cs)
  | .opened, ']' | .negated, ']' => some (k.add .members 0, around, cs)
  | _, '[' =>
    match asciiClass? cs with
    | some (negated, rest) =>
      if mode.unicode || !negated then some (k.add .members 0, around, rest) else none
    | none => some ({}, k :: around, cs)
  | _, ']' =>
    match around with
    | [] => none
    | outer :: around =>
      if mode.unicode || !k.negated then some (outer.add .members (k.depth + 1), around, cs)
      else none
  | _, c =>
    if c ∈ ['&', '-', '~'] ∧ cs.head? = some c then some (k.divide, around, cs.tail)
    else (member? mode c cs).map fun rest => (k.add .members 0, around, rest)

/-! ## What a class takes -/

theorem length_asciiName?_le {cs rest : List Char} (h : asciiName? cs = some rest) :
    rest.length ≤ cs.length := by
  have hle := (List.dropWhile_sublist (l := cs) (· ≠ ':')).length_le
  unfold asciiName? at h
  split at h
  · next heq =>
    rw [heq] at hle
    split at h
    · obtain rfl : _ = rest := by simpa using h
      simp only [List.length_cons] at hle
      omega
    · contradiction
  · contradiction

theorem length_asciiClass?_le {cs rest : List Char} {negated : Bool}
    (h : asciiClass? cs = some (negated, rest)) : rest.length ≤ cs.length := by
  revert h
  fun_cases asciiClass? cs with
  | case1 cs | case2 cs =>
    intro h
    obtain ⟨r, hr, he⟩ := Option.map_eq_some_iff.1 h
    cases he
    have := length_asciiName?_le hr
    simp only [List.length_cons]
    omega
  | case3 => rintro ⟨⟩

theorem length_classPiece?_le {mode : Mode} {c : Char} {cs rest : List Char} {p : Piece}
    (h : classPiece? mode c cs = some (p, rest)) : rest.length ≤ cs.length := by
  unfold classPiece? at h
  split at h
  · exact length_escape?_le h
  · obtain ⟨-, rfl⟩ : _ ∧ _ := by simpa using h
    exact Nat.le_refl _

theorem length_member?_le {mode : Mode} {c : Char} {cs rest : List Char}
    (h : member? mode c cs = some rest) : rest.length ≤ cs.length := by
  unfold member? at h
  split at h
  · contradiction
  · next first ds hfirst =>
    have hds := length_classPiece?_le hfirst
    have hskip := mode.length_skip_le ds
    split at h
    · next behind heq =>
      simp only [heq, List.length_cons] at hskip
      split at h
      · split at h
        · obtain rfl : _ = rest := by simpa using h
          simp only [List.length_cons]
          omega
        · contradiction
      · have hbehind := mode.length_skip_le behind
        split at h
        · contradiction
        · next heq' =>
          simp only [heq', List.length_cons] at hbehind
          split at h
          · next hlast =>
            have := length_classPiece?_le hlast
            split at h
            · obtain rfl : _ = rest := by simpa using h
              omega
            · contradiction
          · contradiction
    · split at h
      · obtain rfl : _ = rest := by simpa using h
        omega
      · contradiction

theorem length_classStep?_le {mode : Mode} {k k' : OpenClass} {around around' : List OpenClass}
    {c : Char} {cs rest : List Char}
    (h : classStep? mode k around c cs = some (k', around', rest)) : rest.length ≤ cs.length := by
  revert h
  fun_cases classStep? mode k around c cs with
  | case7 => -- a class of ASCII
    rename_i hclass _
    rintro ⟨⟩
    exact length_asciiClass?_le hclass
  | case13 => -- an operator
    rintro ⟨⟩
    simp
  | case14 => -- a member
    intro h
    obtain ⟨r, hr, he⟩ := Option.map_eq_some_iff.1 h
    cases he
    exact length_member?_le hr
  | case8 | case10 | case12 => rintro ⟨⟩
  | _ => -- a mark by itself
    rintro ⟨⟩
    exact Nat.le_refl _

/-! ## Reading -/

/-- Reads on to the end of the outermost class, where only the place it stands in is left around. -/
def classEnd? (mode : Mode) (k : OpenClass) (around : List OpenClass) (cs : List Char) :
    Option (Nat × List Char) :=
  if around.isEmpty then some (k.depth, cs)
  else
    match hskip : mode.skip cs with
    | [] => none
    | c :: ds =>
      match hstep : classStep? mode k around c ds with
      | none => none
      | some (k, around, rest) =>
        have : rest.length < cs.length := by
          have := length_classStep?_le hstep
          have := mode.length_skip_le cs
          simp only [hskip, List.length_cons] at this
          omega
        classEnd? mode k around rest
termination_by cs.length

/-- A class, read behind its bracket: its depth, and the rest. -/
def class? (mode : Mode) (cs : List Char) : Option (Nat × List Char) :=
  classEnd? mode {} [{}] cs

theorem length_classEnd?_le {mode : Mode} {k : OpenClass} {around : List OpenClass} {d : Nat}
    {cs rest : List Char} (h : classEnd? mode k around cs = some (d, rest)) :
    rest.length ≤ cs.length := by
  fun_induction classEnd? mode k around cs with
  | case1 =>
    obtain ⟨-, rfl⟩ : _ ∧ _ := by simpa using h
    exact Nat.le_refl _
  | case2 | case3 => contradiction
  | case4 _ _ cs _ _ _ hskip _ _ _ hstep _ ih =>
    have := ih h
    have := length_classStep?_le hstep
    have := mode.length_skip_le cs
    simp only [hskip, List.length_cons] at this
    omega

theorem length_class?_le {mode : Mode} {d : Nat} {cs rest : List Char}
    (h : class? mode cs = some (d, rest)) : rest.length ≤ cs.length :=
  length_classEnd?_le h

end Symbolizer.Pattern
