import Symbolizer.Command.Flag
import Symbolizer.Text.Terminal

/-!
# Usage complaints

What can be wrong with a command line, and the text that tells the user: what is wrong, perhaps a
tip, perhaps a usage line that fits, and where to find help. What the user has written is repeated
without what a terminal would obey.
-/

namespace Symbolizer.Command

/-- A fault of the command line itself. -/
inductive Complaint
  /-- No flag has this letter. -/
  | unknownShort (c : Char)
  /-- No flag has this name. The flags given before it count for the usage line, and whether
  anything at all came before it. -/
  | unknownLong (name : String) (given : List Flag) (first : Bool)
  /-- There are more positional arguments than there are places. -/
  | extraArgument (text : String)
  /-- A flag has a value behind an equals sign. It counts whether anything is settled before it. -/
  | needlessValue (flag : Flag) (value : String) (first : Bool)
  /-- A flag that may be given once is given twice. -/
  | repeated (flag : Flag)
  /-- A positional argument is the empty text. -/
  | emptyValue (positional : Positional)
  /-- Two flags exclude each other; in the order in which they were given. -/
  | conflict (former latter : Flag)
  /-- Positional arguments are not there. -/
  | missing (positionals : List Positional) (given : List Flag)
  deriving DecidableEq, Repr

namespace Complaint

/-- A text of the user's between quotes. -/
def quoted (text : String) : String := "'" ++ Text.Terminal.plain text ++ "'"

/-- What is wrong. -/
def what : Complaint → String
  | unknownShort c => "unexpected argument " ++ quoted ("-" ++ c.toString) ++ " found"
  | unknownLong name _ _ => "unexpected argument " ++ quoted ("--" ++ name) ++ " found"
  | extraArgument text => "unexpected argument " ++ quoted text ++ " found"
  | needlessValue flag value _ =>
    "unexpected value " ++ quoted value ++ " for '" ++ flag.usageText ++
      "' found; no more were expected"
  | repeated flag => "the argument '" ++ flag.usageText ++ "' cannot be used multiple times"
  | emptyValue positional =>
    "a value is required for '" ++ positional.text ++ "' but none was supplied"
  | conflict former latter =>
    "the argument '" ++ former.usageText ++ "' cannot be used with '" ++ latter.usageText ++ "'"
  | missing positionals _ =>
    "the following required arguments were not provided:" ++
      String.join (positionals.map fun p => "\n  " ++ p.text)

/-- How to pass as a value what looks like a flag. -/
def valueTip (text : String) : String :=
  "to pass " ++ quoted text ++ " as a value, use " ++ quoted ("-- " ++ text)

/-- What the user may have meant. -/
def tip? : Complaint → Option String
  | unknownShort c => some (valueTip ("-" ++ c.toString))
  | unknownLong name _ _ =>
    match Flag.similar? name with
    | some f => some ("a similar argument exists: '" ++ f.text ++ "'")
    | none => some (valueTip ("--" ++ name))
  | _ => none

/-- The usage line that fits. -/
def usage? : Complaint → Option String
  | unknownShort _ | extraArgument _ | repeated _ => some generalUsage
  | unknownLong name given first =>
    match Flag.similar? name with
    | some f => some (usageNaming (if f ∈ given then given else given ++ [f]))
    | none => some (if first then generalUsage else usageNaming given)
  | needlessValue flag _ first => some (if first then usageNaming [flag] else usageOfAll flag)
  | emptyValue _ => none
  | conflict former _ => some (usageNaming [former])
  | missing _ given => some (usageNaming given)

/-- All that the user is told. -/
def text (c : Complaint) : String :=
  let paragraphs :=
    ["error: " ++ c.what] ++ (c.tip?.map ("  tip: " ++ ·)).toList ++
      (c.usage?.map ("Usage: " ++ ·)).toList ++ ["For more information, try '--help'."]
  "\n\n".intercalate paragraphs ++ "\n"

end Complaint

end Symbolizer.Command
