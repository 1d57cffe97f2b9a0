import Symbolizer.Pattern.Class

/-!
# Patterns

A pattern is a regular expression over Unicode, as it may be given for the value of a field. Nothing
is ever matched against one, so all that counts is whether a text is a pattern that an automaton can
be built for (`isPattern`): whether it is well formed, asks for nothing that an automaton over bytes
cannot tell, and does not nest too deeply.

A value ends at a closing brace, so no count of repetitions, and no name between braces, is ever
complete.
-/

namespace Symbolizer.Pattern

/-- A part of a branch of a pattern. -/
structure Part where
  depth : Nat := 0
  /-- Whether it stands for something that can be repeated, as flags do not. -/
  repeatable : Bool := true

/-- What stands around a group whose end has not been read. -/
structure Surroundings where
  mode : Mode
  parts : List Part
  branches : List Nat

/-- How much of a pattern has been read. -/
structure Reading where
  mode : Mode := {}
  /-- The names of groups. -/
  names : List String := []
  /-- What stands around the innermost group, and so on outwards. -/
  around : List Surroundings := []
  /-- The depths of the branches of the innermost group that are complete. -/
  branches : List Nat := []
  /-- The parts of the branch that is being read, the last first. -/
  parts : List Part := []

namespace Reading

/-- The depth of the branch that is being read. -/
def branchDepth (r : Reading) : Nat := depthOfRow (r.parts.map (·.depth))

/-- The depth of the innermost group's content. -/
def depth (r : Reading) : Nat := depthOfRow (r.branchDepth :: r.branches)

/-- What has been read, with one more part. -/
def add (r : Reading) (part : Part) : Reading := { r with parts := part :: r.parts }

/-- Begins what an opening parenthesis stands for. No two groups have one name. -/
def opened? (r : Reading) : Opening → Option Reading
  | .flags mode => some ({ r with mode }.add { repeatable := false })
  | .group mode name =>
    if name.any (· ∈ r.names) then none
    else
      some {
        mode
        names := name.toList ++ r.names
        around := { mode := r.mode, parts := r.parts, branches := r.branches } :: r.around }

/-- Ends the innermost group, which becomes a part of what stands around it. -/
def closed? (r : Reading) : Option Reading :=
  match r.around with
  | [] => none
  | outer :: around =>
    some {
      mode := outer.mode
      names := r.names
      around
      branches := outer.branches
      parts := { depth := r.depth + 1 } :: outer.parts }

/-- Repeats the last part. -/
def repeated? (r : Reading) : Option Reading :=
  match r.parts with
  | [] => none
  | part :: parts =>
    if part.repeatable then some { r with parts := { depth := part.depth + 1 } :: parts } else none

/-- The piece that begins with `c` outside classes, and the rest. -/
def piece? (mode : Mode) (c : Char) (cs : List Char) : Option (Piece × List Char) :=
  match c with
  | '\\' => escape? mode cs
  | '.' => some (.any, cs)
  | '^' | '$' => some (.edge false, cs)
  | c => some (.character c false, cs)

/-- Reads on from `c`. A repetition may have a question mark behind it, which makes it a short one. -/
def step? (r : Reading) (c : Char) (cs : List Char) : Option (Reading × List Char) :=
  match c with
  | '(' =>
    match Opening.read? r.mode cs with
    | some (opening, rest) => (r.opened? opening).map (·, rest)
    | none => none
  | ')' => r.closed?.map (·, cs)
  | '|' => some ({ r with branches := r.branchDepth :: r.branches, parts := [] }, cs)
  | '[' => (class? r.mode cs).map fun (depth, rest) => (r.add { depth }, rest)
  | '*' | '+' | '?' => r.repeated?.map (·, if cs.head? = some '?' then cs.tail else cs)
  | '\x7b' => none
  | c =>
    match piece? r.mode c cs with
    | some (piece, rest) => if piece.standsAlone r.mode then some (r.add {}, rest) else none
    | none => none

theorem length_piece?_le {mode : Mode} {c : Char} {cs rest : List Char} {p : Piece}
    (h : piece? mode c cs = some (p, rest)) : rest.length ≤ cs.length := by
  revert h
  fun_cases piece? mode c cs with
  | case1 => exact length_escape?_le
  | _ =>
    rintro ⟨⟩
    exact Nat.le_refl _

theorem length_step?_le {r r' : Reading} {c : Char} {cs rest : List Char}
    (h : r.step? c cs = some (r', rest)) : rest.length ≤ cs.length := by
  revert h
  fun_cases step? r c cs with
  | case1 _ _ hopening => -- a group, or flags
    intro h
    obtain ⟨_, -, he⟩ := Option.map_eq_some_iff.1 h
    cases he
    exact Opening.length_read?_le hopening
  | case3 => -- the end of a group
    intro h
    obtain ⟨_, -, he⟩ := Option.map_eq_some_iff.1 h
    cases he
    exact Nat.le_refl _
  | case4 => -- the end of a branch
    rintro ⟨⟩
    exact Nat.le_refl _
  | case5 => -- a class
    intro h
    obtain ⟨⟨_, _⟩, hclass, he⟩ := Option.map_eq_some_iff.1 h
    cases he
    exact length_class?_le hclass
  | case6 | case7 | case8 => -- a repetition
    intro h
    obtain ⟨_, -, he⟩ := Option.map_eq_some_iff.1 h
    cases he
    split <;> simp
  | case10 => -- a piece
    rename_i hpiece
    rintro ⟨⟩
    exact length_piece?_le hpiece
  | case2 | case9 | case11 | case12 => rintro ⟨⟩

/-- Reads on to the end of a pattern. -/
def read? (r : Reading) (cs : List Char) : Option Reading :=
  match hskip : r.mode.skip cs with
  | [] => some r
  | c :: ds =>
    match hstep : r.step? c ds with
    | none => none
    | some (r', rest) =>
      have : rest.length < cs.length := by
        have := length_step?_le hstep
        have := r.mode.length_skip_le cs
        simp only [hskip, List.length_cons] at this
        omega
      r'.read? rest
termination_by cs.length

end Reading

/-- The deepest nesting that a pattern may have. -/
def depthLimit : Nat := 250

/-- Whether a text is a pattern that an automaton can be built for. -/
def isPattern (cs : List Char) : Bool :=
  match ({} : Reading).read? cs with
  | some r => r.around.isEmpty && r.depth ≤ depthLimit
  | none => false

end Symbolizer.Pattern
