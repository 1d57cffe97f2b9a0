import Symbolizer.Text.Similarity

/-!
# What the command line consists of

Two positional arguments, four flags, and the texts that show them in usage lines and help.
-/

namespace Symbolizer.Command

/-- The name of the program. -/
def programName : String := "symtrace"

/-- The version of the program. -/
def version : String := "0.1.0"

/-- An option without a value. -/
inductive Flag
  | verbose
  | quiet
  | help
  | version
  deriving DecidableEq, Repr

namespace Flag

/-- All flags, in the order of the help text. -/
def all : List Flag := [verbose, quiet, help, version]

/-- The name behind two hyphens. -/
def long : Flag → String
  | verbose => "verbose"
  | quiet => "quiet"
  | help => "help"
  | version => "version"

/-- The letter behind one hyphen. -/
def short : Flag → Char
  | verbose => 'v'
  | quiet => 'q'
  | help => 'h'
  | version => 'V'

def ofLong? (name : String) : Option Flag := all.find? (·.long = name)

def ofShort? (c : Char) : Option Flag := all.find? (·.short = c)

/-- The flag with its hyphens. -/
def text (f : Flag) : String := "--" ++ f.long

/-- The flag as usage lines name it; dots say that it may be repeated. -/
def usageText : Flag → String
  | verbose => "--verbose..."
  | f => f.text

/-- How alike a name must be to a flag's for the flag to be suggested. -/
def suggestionThreshold : Float := 0.7

/-- The flag whose name is most like `name`, if any is like it at all; the last of equals. -/
def similar? (name : String) : Option Flag :=
  let closer (best : Option (Flag × Float)) (f : Flag) : Option (Flag × Float) :=
    let likeness := Text.Similarity.jaro name f.long
    if suggestionThreshold < likeness && best.all (·.2 ≤ likeness) then some (f, likeness) else best
  (all.foldl closer none).map (·.1)

end Flag

/-- An argument that is known by its place. -/
inductive Positional
  | listing
  | log
  deriving DecidableEq, Repr

namespace Positional

def all : List Positional := [listing, log]

/-- The argument's name in usage lines. -/
def text : Positional → String
  | listing => "<DISASM>"
  | log => "<LOG>"

end Positional

/-! ## Usage lines -/

/-- The names of both positional arguments. -/
def positionalsText : String :=
  " ".intercalate (Positional.all.map Positional.text)

/-- A usage line in general. -/
def generalUsage : String :=
  programName ++ " [OPTIONS] " ++ positionalsText

/-- A usage line that names the given flags. -/
def usageNaming (flags : List Flag) : String :=
  " ".intercalate (programName :: flags.map Flag.usageText ++ [positionalsText])

/-- A usage line with the choice of all that may be given, behind the flag if it is none of them. -/
def usageOfAll (f : Flag) : String :=
  let choices := "<DISASM|LOG|--verbose...|--quiet>"
  match f with
  | .verbose | .quiet => programName ++ " " ++ choices
  | f => programName ++ " " ++ f.usageText ++ " " ++ choices

/-- What the help flag prints. -/
def helpText : String :=
  String.join <| List.map (· ++ "\n") [
    "Extract rv_emu block execution lines and append function names",
    "",
    "Usage: " ++ generalUsage,
    "",
    "Arguments:",
    "  <DISASM>  Disassembly output file (objdump-like)",
    "  <LOG>     Emulator execution log file",
    "",
    "Options:",
    "  -v, --verbose...  Increase diagnostic verbosity on stderr (-v, -vv, -vvv)",
    "  -q, --quiet       Only report errors on stderr",
    "  -h, --help        Print help",
    "  -V, --version     Print version"]

/-- What the version flag prints. -/
def versionText : String := programName ++ " " ++ version ++ "\n"

end Symbolizer.Command
