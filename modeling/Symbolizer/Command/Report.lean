import Symbolizer.Command.Arguments
import Symbolizer.Command.Filter
import Symbolizer.Buffer
import Symbolizer.Run
import Symbolizer.Sink
import Symbolizer.Text.Quoted

/-!
# Reports

What the program as a whole does with its arguments: the exit code, what goes to the output, and
what the user is told, which is the diagnostics that the filter lets through and the failure.

In symtrace `run` is `main` with its `annotate_command`.
-/

namespace Symbolizer.Command

/-- What the program leaves behind. -/
structure Report where
  exitCode : Nat
  output : ByteArray := .empty
  /-- The diagnostics that the user is shown. -/
  shown : List Diagnostic := []
  /-- What the user is told at the end. -/
  closing : String := ""

namespace Report

/-- A word at the right end of five places. -/
def column (word : String) : String :=
  String.ofList (List.replicate (5 - word.length) ' ') ++ word

/-- A field as a report shows it. -/
def fieldText (field : Field) : String :=
  field.name ++ "=" ++ if field.quoted then Text.Quoted.quote field.value else field.value

/-- A diagnostic on a line of its own, with the time at which it is shown. -/
def diagnosticLine (time : String) (x : Diagnostic) : String :=
  time ++ " " ++ column x.level.word ++ " " ++ x.origin ++ ": " ++
    " ".intercalate (x.message :: x.fields.map fieldText) ++ "\n"

/-- All that the user is told. -/
def messages (r : Report) (time : String) : String :=
  String.join (r.shown.map (diagnosticLine time)) ++ r.closing

/-- A failure on a line of its own. -/
def failureLine (failure : Failure) : String :=
  "ERROR: " ++ failure.report ++ "\n"

/-- What is left behind without a run. -/
def ofEnding : Ending → Report
  | .help => { exitCode := 0, output := helpText.toUTF8 }
  | .version => { exitCode := 0, output := versionText.toUTF8 }
  | .complaint c => { exitCode := 2, closing := c.text }

/-- What a run leaves behind. What the receiver still holds back is passed on at the end, however the
run ended. -/
def ofOutcome {σ : Type} [Receiver σ] (filter : Filter) (o : Outcome σ) : Report :=
  let shown := o.diagnostics.filter filter.shows
  let output := Receiver.taken (Receiver.flush o.receiver).1
  match o.result with
  | .ok _ => { exitCode := 0, output, shown }
  | .error failure =>
    { exitCode := failure.exitCode, output, shown, closing := failureLine failure }

end Report

/-- The way from the program to a device. The program's own buffer is in front of the buffer of the
standard output, which goes by lines. -/
def buffered {σ : Type} (device : σ) : Buffered (Buffered σ) where
  buffer := { capacity := 8192 }
  behind := { buffer := { capacity := 1024, byLine := true }, behind := device }

/-- A device that takes nothing. -/
def refusing (fault : Fault) : Sink where
  limit := some 0
  refusal := fault

/-- Runs the program, whose output goes to `device`. `filterText` is the filter that the user has set
apart from the arguments. -/
def run {σ : Type} [Receiver σ] (files : Files) (arguments : List String)
    (filterText : Option String) (device : σ) : Report :=
  match Options.ofArguments arguments with
  | .error ending => .ofEnding ending
  | .ok options =>
    let filter := Filter.choose filterText options.verbosity options.quiet
    .ofOutcome filter (annotateFiles files options.listing options.log (buffered device))

end Symbolizer.Command
