import Symbolizer.Fault
import Symbolizer.Header

/-!
# Failures

Why a run ended without an answer, how the user is told, and the exit code that a calling program
sees: 2 for a listing that announces no function, 1 for whatever a device refused.

In symtrace a failure is an `AnnotateError`, except for a failed flush, which has a context there and
no variant of its own.
-/

namespace Symbolizer

/-- The reasons for which a run fails. -/
inductive Failure
  /-- The listing was read to its end, and no line of it is a header. -/
  | noHeaders (path : String)
  | cannotOpen (path : String) (fault : Fault)
  | cannotRead (path : String) (fault : Fault)
  | cannotWrite (fault : Fault)
  | cannotFlush (fault : Fault)
  deriving DecidableEq, Repr

namespace Failure

/-- The fault behind a failure, if a device is to blame. -/
def fault? : Failure → Option Fault
  | noHeaders _ => none
  | cannotOpen _ fault | cannotRead _ fault | cannotWrite fault | cannotFlush fault => some fault

def message : Failure → String
  | noHeaders path =>
    "Could not find any function headers in disassembly " ++ path ++
      ". Expected lines like: " ++ Header.sampleText
  | cannotOpen path fault => "Failed to open " ++ path ++ ": " ++ fault.text
  | cannotRead path fault => "Failed to read " ++ path ++ ": " ++ fault.text
  | cannotWrite fault => "Failed to write annotated output: " ++ fault.text
  | cannotFlush fault => "Failed to flush annotated output: " ++ fault.text

/-- The message and the causes behind it. A message that names the fault already is followed by it
all the same, except after a failed flush, whose message is made from that chain. -/
def report : Failure → String
  | f@(cannotOpen _ fault) | f@(cannotRead _ fault) | f@(cannotWrite fault) =>
    f.message ++ ": " ++ fault.text
  | f => f.message

def exitCode : Failure → Nat
  | noHeaders _ => 2
  | _ => 1

end Failure

end Symbolizer
