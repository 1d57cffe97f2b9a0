import Symbolizer.Diagnostic
import Symbolizer.Pattern
import Symbolizer.Text.Decimal

/-!
# Filters of diagnostics

A filter says which diagnostics are shown. It is a list of directives, each of which allows a level
to the diagnostics of an origin; of those that apply to a diagnostic the most specific decides. The
flags of the command line choose one directive for all; a text, where the user has given one that
can be read, replaces it.

Directives are apart by commas and have the forms `level`, `target`, `target=level` and
`target[span]=level`, the span with an optional field in braces. The field may have a value behind an
equals sign, which is a number or a pattern.

In symtrace `defaultLevel` is `default_directive`, and `Filter.choose` is what `init_tracing` does.
Every filter text is taken to be either read or refused, as `EnvFilter` documents; `piece` says where
that is an assumption.
-/

namespace Symbolizer.Command

/-- The level shown by default for a count of verbose flags, or for the quiet flag. -/
def defaultLevel (verbosity : Nat) (quiet : Bool) : Level :=
  if quiet then .error
  else
    match verbosity with
    | 0 => .warn
    | 1 => .info
    | 2 => .debug
    | _ => .trace

/-- What diagnostics a directive is about, and up to which level they are shown. -/
structure Directive where
  /-- What the origin begins with; any origin, if there is none. -/
  target : Option String := none
  /-- A field that the diagnostic has; any, if there is none. -/
  field : Option String := none
  /-- Whether it asks for a span or for the value of a field, which no diagnostic has. -/
  onlySpans : Bool := false
  /-- The highest level that is shown; none at all, if there is none. -/
  level : Option Level := some .trace
  deriving DecidableEq, Repr

/-- The directives of a filter, in the order given. -/
abbrev Filter := List Directive

namespace Directive

/-! ## Reading -/

/-- The number that a text is in decimal, with an optional plus sign. -/
def number? (text : String) : Option Nat :=
  match text.toList with
  | '+' :: digits => digitsValue? digits
  | digits => digitsValue? digits
where
  digitsValue? (digits : List Char) : Option Nat :=
    if digits.isEmpty || !digits.all Char.isDigit then none
    else some (Nat.ofDigitChars 10 digits 0)

/-- The level, or the absence of all, that a word or number stands for. -/
def levelOfText? (text : String) : Option (Option Level) :=
  match number? text with
  | some 0 => some none
  | some (n + 1) => Level.all[n]?.map some
  | none =>
    if text.toLower = "off" then some none
    else (Level.all.find? (·.name = text.toLower)).map some

/-- Where the reading of a directive stands; the numbers are the places where pieces begin. -/
inductive Place
  | start
  | head (first : Nat)
  | span (first : Nat)
  | field (first : Nat)
  | behindField
  | behindSpan
  | level (first : Nat)
  deriving DecidableEq, Repr

/-- The rest of a text from a place on. Places count bytes; one inside a character counts as the one
behind it. -/
def fromPlace : Nat → List Char → List Char
  | 0, cs => cs
  | _ + 1, [] => []
  | n + 1, c :: cs => fromPlace (n + 1 - c.utf8Size) cs

/-- The beginning of a text up to a place; one inside a character counts as the one behind it. -/
def upToPlace : Nat → List Char → List Char
  | 0, _ | _ + 1, [] => []
  | n + 1, c :: cs => c :: upToPlace (n + 1 - c.utf8Size) cs

/-- The characters of a text with their places, if the first has place `i`. -/
def placed (i : Nat) : List Char → List (Char × Nat)
  | [] => []
  | c :: cs => (c, i) :: placed (i + c.utf8Size) cs

/-- The piece of a text from one place up to another. Behind blanks a place can be inside a character
(see `parse?`). A slice by bytes has no answer there and would break the program off, where here the
piece goes on to the end of the character. -/
def piece (text : List Char) (first stop : Nat) : String :=
  String.ofList (upToPlace (stop - first) (fromPlace first text))

/-- The piece of a text from a place to its end. -/
def pieceToEnd (text : List Char) (first : Nat) : String :=
  String.ofList (fromPlace first text)

/-- Whether a directive may begin with a character. -/
def isInitial (c : Char) : Bool :=
  Text.isAlphanumeric c || c == '-' || c == ':' || c == '_'

/-- Whether a text may be the value of a field. The words of truth are patterns, too. -/
def isValue (text : String) : Bool :=
  Text.Decimal.isNumber text.toList || Pattern.isPattern text.toList

/-- How a character at place `i` carries the reading of a directive on. -/
def step? (text : List Char) (d : Directive) (place : Place) (i : Nat) (c : Char) :
    Option (Directive × Place) :=
  match place, c with
  | .start, '[' => some (d, .span (i + 1))
  | .start, c => if isInitial c then some (d, .head i) else none
  | .head first, '=' => some ({ d with target := piece text first i }, .level (i + 1))
  | .head first, '[' => some ({ d with target := piece text first i }, .span (i + 1))
  | .head first, _ => some (d, .head first)
  | .span _, ']' => some ({ d with onlySpans := true }, .behindSpan)
  | .span first, '\x7b' =>
    some ({ d with onlySpans := !(piece text first i).isEmpty }, .field (i + 1))
  | .span first, _ => some (d, .span first)
  | .field first, '\x7d' =>
    match (piece text first i).splitOn "=" with
    | [""] => none
    | [name] => some ({ d with field := name }, .behindField)
    | _ :: value :: _ =>
      if isValue value then some ({ d with onlySpans := true }, .behindField) else none
    | [] => none
  | .field first, _ => some (d, .field first)
  | .behindField, ']' => some (d, .behindSpan)
  | .behindSpan, '=' => some (d, .level (i + 1))
  | .level first, _ => some (d, .level first)
  | .behindField, _ | .behindSpan, _ => none

/-- The directive at the end of its text. -/
def finish? (text : List Char) (d : Directive) : Place → Option Directive
  | .head first =>
    match levelOfText? (pieceToEnd text first) with
    | some level => some { d with level }
    | none => some { d with target := pieceToEnd text first }
  | .level first =>
    if (pieceToEnd text first).isEmpty then some d
    else (levelOfText? (pieceToEnd text first)).map fun level => { d with level }
  | .behindSpan => some d
  | _ => none

/-- The directive that a text is. Places are counted from the first character that is not blank,
pieces are taken from the text with its blanks, and blanks at the end carry nothing on. -/
def parse? (text : String) : Option Directive := do
  let chars := text.toList
  let body := (chars.dropWhile Text.isBlank).reverse.dropWhile Text.isBlank |>.reverse
  let (d, place) ← (placed 0 body).foldlM
    (fun (d, place) (c, i) => step? chars d place i c) (({} : Directive), Place.start)
  finish? chars d place

/-! ## Applying -/

/-- Whether a directive is about a diagnostic. -/
def applies (d : Directive) (x : Diagnostic) : Bool :=
  !d.onlySpans && d.target.all (·.isPrefixOf x.origin) &&
    d.field.all fun name => name == "message" || x.fields.any (·.name == name)

/-- Whether a directive is no less specific than another: by the length of its target, and for
equal ones by its field. -/
def atLeastAsSpecific (d e : Directive) : Bool :=
  let size (d : Directive) : Nat := d.target.elim 0 (·.utf8ByteSize + 1)
  if size d = size e then
    match d.field, e.field with
    | _, none => true
    | none, some _ => false
    | some f, some g => g ≤ f
  else size e < size d

end Directive

namespace Filter

/-- A filter that allows a level to all diagnostics. -/
def ofLevel (level : Level) : Filter := [{ level }]

/-- The filter that a text is. Without any directive it shows errors. -/
def parse? (text : String) : Option Filter :=
  match (text.splitOn ",").filter (· ≠ "") with
  | [] => some (ofLevel .error)
  | texts => texts.mapM Directive.parse?

/-- The filter for the flags of the command line and the text, if any, that the user has set. -/
def choose (text : Option String) (verbosity : Nat) (quiet : Bool) : Filter :=
  (text.bind parse?).getD (ofLevel (defaultLevel verbosity quiet))

/-- The directive that decides about a diagnostic: the most specific, and of equals the last. -/
def decisive? (filter : Filter) (x : Diagnostic) : Option Directive :=
  (filter.filter (·.applies x)).foldl
    (fun best d => if best.all d.atLeastAsSpecific then some d else best) none

/-- Whether a diagnostic is shown. -/
def shows (filter : Filter) (x : Diagnostic) : Bool :=
  match (filter.decisive? x).bind (·.level) with
  | some level => x.level.rank ≤ level.rank
  | none => false

end Filter

end Symbolizer.Command
