import Symbolizer.Command.Complaint

/-!
# Reading the command line

Arguments are read from left to right, and what is wrong with one ends the reading, as does a flag
that asks for a text. A positional argument is looked at only when the next argument is accepted or
the arguments end: until then it is `held`. What arguments have to do with each other comes last.
-/

namespace Symbolizer.Command

/-- What a command line asks for, when it asks for a run (`Cli` in symtrace). -/
structure Options where
  verbosity : Nat
  quiet : Bool
  listing : String
  log : String
  deriving DecidableEq, Repr

/-- Why a command line asks for no run. -/
inductive Ending
  | help
  | version
  | complaint (complaint : Complaint)
  deriving DecidableEq, Repr

/-- What has been read so far. -/
structure Arguments where
  /-- The flags given, in the order of their last use. -/
  flags : List Flag := []
  verbosity : Nat := 0
  /-- The positional arguments that have been looked at, in order. -/
  settled : List String := []
  /-- The positional argument that has not been looked at yet. -/
  held : Option String := none
  deriving DecidableEq, Repr

namespace Arguments

/-- The place that the next positional argument to be settled takes. -/
def place (a : Arguments) : Positional :=
  if a.settled.isEmpty then .listing else .log

/-- Looks at the positional argument that is held. -/
def settle (a : Arguments) : Except Ending Arguments :=
  match a.held with
  | none => .ok a
  | some "" => .error (.complaint (.emptyValue a.place))
  | some text => .ok { a with settled := a.settled ++ [text], held := none }

/-- Whether nothing has been settled yet. -/
def nothingSettled (a : Arguments) : Bool := a.flags.isEmpty && a.settled.isEmpty

/-- Whether nothing has been given yet. -/
def nothingGiven (a : Arguments) : Bool := a.nothingSettled && a.held.isNone

/-- Accepts a flag. -/
def flag (a : Arguments) (f : Flag) : Except Ending Arguments := do
  let a ← a.settle
  match f with
  | .verbose => .ok { a with
      flags := a.flags.filter (· ≠ .verbose) ++ [.verbose]
      verbosity := a.verbosity + 1 }
  | .quiet =>
    if .quiet ∈ a.flags then .error (.complaint (.repeated .quiet))
    else .ok { a with flags := a.flags ++ [.quiet] }
  | .help => .error .help
  | .version => .error .version

/-- Accepts a positional argument, if there is a place for it. -/
def positional (a : Arguments) (text : String) : Except Ending Arguments := do
  if a.settled.length + a.held.toList.length < Positional.all.length then
    let a ← a.settle
    .ok { a with held := some text }
  else .error (.complaint (.extraArgument text))

/-- Accepts a flag by its letter. -/
def letter (a : Arguments) (c : Char) : Except Ending Arguments :=
  match Flag.ofShort? c with
  | some f => a.flag f
  | none => .error (.complaint (.unknownShort c))

/-- Accepts what stands behind two hyphens: a name, perhaps with an equals sign and a value. -/
def name (a : Arguments) (body : List Char) : Except Ending Arguments :=
  let name := String.ofList (body.takeWhile (· ≠ '='))
  match Flag.ofLong? name, body.dropWhile (· ≠ '=') with
  | none, _ => .error (.complaint (.unknownLong name a.flags a.nothingGiven))
  | some f, [] => a.flag f
  | some f, _ :: value =>
    .error (.complaint (.needlessValue f (String.ofList value) a.nothingSettled))

/-- Accepts one argument where flags are looked for. -/
def argument (a : Arguments) (text : String) : Except Ending Arguments :=
  match text.toList with
  | '-' :: '-' :: body => a.name body
  | '-' :: c :: letters => (c :: letters).foldlM letter a
  | _ => a.positional text

/-- Reads all arguments. Behind two hyphens that stand alone, all are positional. -/
def read (a : Arguments) : List String → Except Ending Arguments
  | [] => .ok a
  | "--" :: texts => texts.foldlM positional a
  | text :: texts => do (← a.argument text).read texts

/-- The options that all arguments together amount to. -/
def options (a : Arguments) : Except Ending Options := do
  let a ← a.settle
  match a.flags, a.settled with
  | [former, latter], _ => .error (.complaint (.conflict former latter))
  | flags, [listing, log] =>
    .ok { verbosity := a.verbosity, quiet := .quiet ∈ flags, listing, log }
  | flags, settled =>
    .error (.complaint (.missing (Positional.all.drop settled.length) flags))

end Arguments

/-- What the arguments of a command line ask for. -/
def Options.ofArguments (texts : List String) : Except Ending Options :=
  Arguments.read {} texts >>= Arguments.options

end Symbolizer.Command
