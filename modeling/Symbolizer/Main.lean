import Std.Time.Format
import Symbolizer.Command.Report

/-!
# The program

Reads the files that the command line names, runs `Command.run` on them, and writes what it leaves
behind. The log is left alone when the listing fails; apart from that nothing is decided here.
-/

namespace Symbolizer.Main

/-- The kind of a fault of the operating system. -/
def faultKind : IO.Error → Fault.Kind
  | .interrupted .. => .interrupted
  | .unexpectedEof => .unexpectedEnd
  | _ => .system

/-- A fault of the operating system. -/
def fault (e : IO.Error) : Fault :=
  match e with
  | .alreadyExists _ code text | .otherError code text | .resourceBusy code text
  | .resourceVanished code text | .unsupportedOperation code text | .hardwareFault code text
  | .unsatisfiedConstraints code text | .illegalOperation code text | .protocolError code text
  | .timeExpired code text | .interrupted _ code text | .noFileOrDirectory _ code text
  | .invalidArgument _ code text | .permissionDenied _ code text | .resourceExhausted _ code text
  | .inappropriateType _ code text | .noSuchThing _ code text =>
    { kind := faultKind e, text := (Fault.system text code.toNat).text }
  | .unexpectedEof => { kind := .unexpectedEnd }
  | .userError text => { kind := .other, text }

/-- How many bytes are asked for at once. -/
def requestSize : USize := 65536

/-- What a file answers to one request after another, up to its end or to the first fault that is not
an interruption. What was read before a fault stays in front of it. -/
def deliveries (handle : IO.FS.Handle) : IO (List Delivery) := do
  let mut answers : Array Delivery := #[]
  repeat
    match ← (handle.read requestSize).toBaseIO with
    | .error e =>
      answers := answers.push (.fault (fault e))
      unless (fault e).kind = .interrupted do break
    | .ok bytes =>
      if bytes.isEmpty then break
      answers := answers.push (.chunk bytes.toList)
  return answers.toList

/-- What opening a path gives, with the content already read. -/
def openPath (path : String) : IO (Except Fault Source) := do
  if path.contains '\x00' then return .error .nulInPath
  match ← (IO.FS.Handle.mk path .read).toBaseIO with
  | .error e => return .error (fault e)
  | .ok handle => return .ok (.file { script := ← deliveries handle })

/-- The files that the arguments name. Of the log nothing is opened unless the listing gives a
table. -/
def openFiles (arguments : List String) : IO Files := do
  match Command.Options.ofArguments arguments with
  | .error _ => return fun _ => .error .noSuchFile
  | .ok options =>
    let listing ← openPath options.listing
    match (Listing.load (fun _ => listing) options.listing).1 with
    | .error _ => return fun _ => listing
    | .ok _ =>
      let log ← openPath options.log
      return fun path => if path = options.listing then listing else log

/-- The time of day, to the microsecond. -/
def now : IO String := do
  let moment ← Std.Time.Timestamp.now
  let time := Std.Time.DateTime.ofTimestamp moment Std.Time.TimeZone.ZoneRules.UTC
  return time.format "uuuu-MM-dd'T'HH:mm:ss.SSSSSS'Z'"

/-- Writes to the standard output; the fault, if that fails. -/
def writeOutput (bytes : ByteArray) : IO (Option Fault) := do
  let output ← IO.getStdout
  match ← (output.write bytes *> output.flush).toBaseIO with
  | .error e => return some (fault e)
  | .ok () => return none

end Symbolizer.Main

open Symbolizer in
/-- Runs the program on the arguments of the command line. -/
def main (arguments : List String) : IO UInt32 := do
  let files ← Main.openFiles arguments
  let filterText ← IO.getEnv "RUST_LOG"
  let run : Sink → Command.Report := Command.run files arguments filterText
  let report := run {}
  let report ←
    match ← Main.writeOutput report.output with
    | none => pure report
    | some fault => pure (run (Command.refusing fault))
  (← IO.getStderr).putStr (report.messages (← Main.now))
  return report.exitCode.toUInt32
