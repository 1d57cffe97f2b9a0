import Symbolizer.Block
import Symbolizer.Header

/-!
# Diagnostics

What a run reports beside its output. A `Diagnostic` says what happened; its level, the part of the
program it comes from, its message and its fields follow from that.
-/

namespace Symbolizer

/-- What one run over a log has counted (`AnnotateStats` in symtrace, which counts in 64-bit words).
A line of a log is at least one byte of it, if only its end, and no log has the 2⁶⁴ bytes that a run
would need to count past a word. A tally from anywhere else fits if it is `Tally.InWords`. -/
structure Tally where
  read : Nat := 0
  matched : Nat := 0
  unresolved : Nat := 0
  deriving DecidableEq, Repr, Inhabited

/-- How much a reader of diagnostics has to want them, from the gravest. -/
inductive Level
  | error
  | warn
  | info
  | debug
  | trace
  deriving DecidableEq, Repr

namespace Level

/-- The place in the order from the gravest. -/
def rank : Level → Nat
  | error => 0
  | warn => 1
  | info => 2
  | debug => 3
  | trace => 4

/-- All levels, from the gravest. -/
def all : List Level := [error, warn, info, debug, trace]

/-- The word by which a filter names the level. -/
def name : Level → String
  | error => "error"
  | warn => "warn"
  | info => "info"
  | debug => "debug"
  | trace => "trace"

/-- The word in a report. -/
def word (l : Level) : String := l.name.toUpper

end Level

/-- A named value of a diagnostic; `quoted` if a report writes it between quotes. -/
structure Field where
  name : String
  value : String
  quoted : Bool := false
  deriving DecidableEq, Repr

/-- Something that happened in a run and is worth telling. -/
inductive Diagnostic
  /-- A line has the shape of a header, but its address does not fit. -/
  | oversizedHeader (line : HeaderLine)
  /-- The listing at `path` has been laid out. -/
  | tableBuilt (path : String) (functions : Nat) (lowest : Address)
  /-- The table is about to be used. -/
  | tableReady (functions : Nat)
  /-- A block starts where no function is known. -/
  | blockOutside (block : Block)
  /-- The log at `path` has been annotated to its end. -/
  | logAnnotated (path : String) (tally : Tally)
  deriving DecidableEq, Repr

namespace Diagnostic

def level : Diagnostic → Level
  | oversizedHeader _ | tableReady _ | blockOutside _ => .debug
  | tableBuilt .. | logAnnotated .. => .info

/-- The part of the program that a diagnostic names as its origin. -/
def origin : Diagnostic → String
  | oversizedHeader _ | tableBuilt .. => "symtrace_core::ranges"
  | blockOutside _ | logAnnotated .. => "symtrace_core::annotate"
  | tableReady _ => "symtrace::commands::annotate"

def message : Diagnostic → String
  | oversizedHeader _ => "skipping header with oversized address"
  | tableBuilt .. => "built function index"
  | tableReady _ => "function index ready"
  | blockOutside _ => "block start outside every known function"
  | logAnnotated .. => "annotated execution log"

/-- The text of a start that may be absent. -/
def startText : Option Address → String
  | some a => "Some(\"" ++ a.text ++ "\")"
  | none => "None"

/-- The values a diagnostic carries, in the order of a report. -/
def fields : Diagnostic → List Field
  | oversizedHeader line =>
    [⟨"addr", line.digits, true⟩, ⟨"func", line.name, true⟩]
  | tableBuilt path functions lowest =>
    [⟨"path", path, false⟩, ⟨"functions", toString functions, false⟩,
      ⟨"lowest", lowest.text, false⟩]
  | tableReady functions => [⟨"functions", toString functions, false⟩]
  | blockOutside block =>
    [⟨"timestamp", block.timestamp, false⟩, ⟨"start", startText block.start, false⟩,
      ⟨"end", block.stop, false⟩]
  | logAnnotated path tally =>
    [⟨"path", path, false⟩, ⟨"read", toString tally.read, false⟩,
      ⟨"matched", toString tally.matched, false⟩,
      ⟨"unresolved", toString tally.unresolved, false⟩]

end Diagnostic

end Symbolizer
