/-!
# Faults

A fault is what a device answers instead of doing what it was asked: a kind, which decides whether a
reader asks again, and a text for the user.
-/

namespace Symbolizer

/-- The kinds of faults; `system` are those the operating system reports under a number. -/
inductive Fault.Kind
  | interrupted
  | unexpectedEnd
  | brokenPipe
  | invalidData
  | notFound
  | permissionDenied
  | incompleteWrite
  | invalidInput
  | system
  | other
  deriving DecidableEq, Repr

/-- The text of a fault of which nothing but the kind is known. -/
def Fault.Kind.text : Fault.Kind → String
  | interrupted => "operation interrupted"
  | unexpectedEnd => "unexpected end of file"
  | brokenPipe => "broken pipe"
  | invalidData => "invalid data"
  | notFound => "entity not found"
  | permissionDenied => "permission denied"
  | incompleteWrite => "failed to write whole buffer"
  | invalidInput => "invalid input parameter"
  | system => "system error"
  | other => "other error"

/-- An answer of a device that is not the one asked for. -/
structure Fault where
  kind : Fault.Kind
  text : String := kind.text
  deriving DecidableEq, Repr

namespace Fault

/-- A fault with the text and number of the operating system. -/
def system (text : String) (code : Nat) : Fault where
  kind := .system
  text := s!"{text} (os error {code})"

def noSuchFile : Fault := system "No such file or directory" 2

def notADirectory : Fault := system "Not a directory" 20

def isADirectory : Fault := system "Is a directory" 21

def noSpaceLeft : Fault := system "No space left on device" 28

def nameTooLong : Fault := system "File name too long" 36

/-- A path with a NUL in it names no file that could be asked for. -/
def nulInPath : Fault where
  kind := .invalidInput
  text := "file name contained an unexpected NUL byte"

end Fault

end Symbolizer
