import Symbolizer.Text.Property

/-!
# Modes and groups of a pattern

A pattern is a regular expression. `Mode` holds what its flags decide about how the rest of it is
read: whether it is about characters or bytes, and whether it is spaced out. Flags stand where a
group opens (`Opening.read?`), for the group alone or for what follows them.
-/

namespace Symbolizer.Pattern

/-- How a pattern is read. -/
structure Mode where
  /-- Whether it is about the characters of Unicode; otherwise it is about bytes. -/
  unicode : Bool := true
  /-- Whether blanks and comments between its parts count for nothing. -/
  spaced : Bool := false
  deriving DecidableEq, Repr

/-- The rest behind blanks and comments. A comment goes from a hash to the end of its line. -/
def behindSpace (inComment : Bool) : List Char → List Char
  | [] => []
  | c :: cs =>
    if inComment then behindSpace (c ≠ '\n') cs
    else if Text.isBlank c then behindSpace false cs
    else if c = '#' then behindSpace true cs
    else c :: cs

theorem length_behindSpace_le (inComment : Bool) (cs : List Char) :
    (behindSpace inComment cs).length ≤ cs.length := by
  fun_induction behindSpace inComment cs with
  | case1 | case5 => exact Nat.le_refl _
  | case2 _ _ ih => exact Nat.le_succ_of_le ih
  | case3 _ _ _ _ _ ih | case4 _ _ _ _ ih => exact Nat.le_succ_of_le ih

namespace Mode

/-- The rest where the next part begins. -/
def skip (mode : Mode) (cs : List Char) : List Char :=
  if mode.spaced then behindSpace false cs else cs

theorem length_skip_le (mode : Mode) (cs : List Char) : (mode.skip cs).length ≤ cs.length := by
  unfold skip
  split
  · exact length_behindSpace_le false cs
  · exact Nat.le_refl _

/-- The next character that is neither blank nor the hash of a comment, where those do not count. -/
def peek? (mode : Mode) (cs : List Char) : Option Char :=
  if mode.spaced then
    match cs.dropWhile Text.isBlank with
    | '#' :: cs => (cs.dropWhile Text.isBlank).head?
    | cs => cs.head?
  else cs.head?

/-- The letters of the flags. -/
def letters : List Char := ['i', 'm', 's', 'U', 'u', 'R', 'x']

/-- The mode with a flag set or cleared. The other flags are about what a pattern matches. -/
def set (mode : Mode) (letter : Char) (value : Bool) : Mode :=
  match letter with
  | 'u' => { mode with unicode := value }
  | 'x' => { mode with spaced := value }
  | _ => mode

/-- Reads flags up to the colon or parenthesis behind them; `seen` is what was read before, the last
first. A hyphen clears the flags behind it, of which there must be one. Nothing may stand twice. -/
def flags? (mode : Mode) (seen : List Char) : List Char → Option (Mode × List Char × List Char)
  | [] => none
  | c :: cs =>
    if c = ':' ∨ c = ')' then
      if seen.head? = some '-' then none else some (mode, seen, c :: cs)
    else if c ∈ seen then none
    else if c = '-' then mode.flags? (c :: seen) cs
    else if c ∈ letters then (mode.set c ('-' ∉ seen)).flags? (c :: seen) cs
    else none

theorem length_flags?_le {mode mode' : Mode} {seen seen' cs rest : List Char}
    (h : mode.flags? seen cs = some (mode', seen', rest)) : rest.length ≤ cs.length := by
  fun_induction flags? mode seen cs with
  | case1 | case2 | case4 | case7 => contradiction
  | case3 =>
    obtain ⟨-, -, rfl⟩ : _ ∧ _ ∧ _ := by simpa using h
    exact Nat.le_refl _
  | case5 _ _ _ _ _ ih => exact Nat.le_succ_of_le (ih h)
  | case6 _ _ _ _ _ _ _ _ ih => exact Nat.le_succ_of_le (ih h)

end Mode

/-! ## Where a group opens -/

/-- What an opening parenthesis begins. -/
inductive Opening
  /-- No group, but flags for what follows in the group around. -/
  | flags (mode : Mode)
  /-- A group, perhaps with a name. -/
  | group (mode : Mode) (name : Option String)
  deriving DecidableEq, Repr

namespace Opening

/-- Whether a name may begin with a character. -/
def isInitial (c : Char) : Bool := c == '_' || Text.isAlphabetic c

/-- Whether a character may stand in a name. -/
def isInner (c : Char) : Bool :=
  c == '_' || c == '.' || c == '[' || c == ']' || Text.isAlphanumeric c

/-- The name up to a closing angle, and the rest behind it. -/
def name? (cs : List Char) : Option (String × List Char) :=
  match cs.takeWhile (· ≠ '>'), cs.dropWhile (· ≠ '>') with
  | c :: name, _ :: rest =>
    if isInitial c && name.all isInner then some (String.ofList (c :: name), rest) else none
  | _, _ => none

/-- What a parenthesis begins, read behind it, and the rest. There is no looking around. -/
def read? (mode : Mode) (cs : List Char) : Option (Opening × List Char) :=
  match mode.skip cs with
  | '?' :: 'P' :: '<' :: cs | '?' :: '<' :: cs =>
    (name? cs).map fun (name, rest) => (group mode (some name), rest)
  | '?' :: cs =>
    match mode.flags? [] cs with
    | some (mode, _, ':' :: rest) => some (group mode none, rest)
    | some (mode, _ :: _, ')' :: rest) => some (flags mode, rest)
    | _ => none
  | cs => some (group mode none, cs)

theorem length_name?_le {cs rest : List Char} {name : String} (h : name? cs = some (name, rest)) :
    rest.length ≤ cs.length := by
  unfold name? at h
  split at h
  · next hdrop =>
    have hle := (List.dropWhile_sublist (l := cs) (· ≠ '>')).length_le
    rw [hdrop] at hle
    split at h <;> simp_all
    omega
  · contradiction

theorem length_read?_le {mode : Mode} {cs rest : List Char} {o : Opening}
    (h : read? mode cs = some (o, rest)) : rest.length ≤ cs.length := by
  have hskip := mode.length_skip_le cs
  revert h
  fun_cases read? mode cs with
  | case1 ds heq | case2 ds heq => -- a name
    intro h
    obtain ⟨⟨name, r⟩, hname, he⟩ := Option.map_eq_some_iff.1 h
    cases he
    have := length_name?_le hname
    simp only [heq, List.length_cons] at hskip
    omega
  | case3 ds _ _ heq _ _ _ hflags | case4 ds _ _ heq _ _ _ _ hflags => -- flags
    rintro ⟨⟩
    have := Mode.length_flags?_le hflags
    simp only [heq, List.length_cons] at hskip this
    omega
  | case5 => rintro ⟨⟩
  | case6 => -- nothing but what stands in the group
    rintro ⟨⟩
    exact hskip

end Opening

end Symbolizer.Pattern
