import Symbolizer.Attribution
import Symbolizer.Listing
import Symbolizer.Receiver

/-!
# Runs

A run writes the attribution of every block line of a log to a receiver, line by line and in order,
and keeps count. It ends at the first fault of either side. What there is to tell of a line comes
before the line is written.

* `annotate` (`annotate_log` in symtrace) runs over lines that are already there.
* `annotateLog` (`annotate_file`) opens a log and runs over it.
* `annotateFiles` (`annotate_to`) first loads the listing, and flushes the receiver at the end.
-/

namespace Symbolizer

/-- What a run leaves behind: its counts or why it failed, what it told, and the receiver. -/
structure Outcome (σ : Type) where
  result : Except Failure Tally
  diagnostics : List Diagnostic
  receiver : σ

/-- A run under way. -/
structure Progress (σ : Type) where
  tally : Tally := {}
  diagnostics : Array Diagnostic := #[]
  receiver : σ

variable {σ : Type} [Receiver σ]

namespace Progress

/-- The counts behind one more line. -/
def count (tally : Tally) : Option Attribution → Tally
  | none => { tally with read := tally.read + 1 }
  | some a =>
    { read := tally.read + 1
      matched := tally.matched + 1
      unresolved := if a.isResolved then tally.unresolved else tally.unresolved + 1 }

/-- What there is to tell of an attribution. -/
def told (a : Attribution) : Option Diagnostic :=
  if a.isResolved then none else some (.blockOutside a.block)

/-- Takes one line; the fault, if its attribution was refused. -/
def line (t : SymbolTable) (p : Progress σ) (line : String) : Progress σ × Option Fault :=
  let ⟨tally, diagnostics, receiver⟩ := p
  match Attribution.ofLine? t line with
  | none => (⟨count tally none, diagnostics, receiver⟩, none)
  | some a =>
    let diagnostics := (told a).elim diagnostics diagnostics.push
    let (receiver, fault) := Receiver.writeAll receiver a.pieces
    (⟨count tally (some a), diagnostics, receiver⟩, fault)

/-- Runs to the end of the lines, or to the first fault. -/
def lines (t : SymbolTable) (p : Progress σ) :
    List (Except Failure String) → Progress σ × Except Failure Unit
  | [] => (p, .ok ())
  | .error failure :: _ => (p, .error failure)
  | .ok text :: rest =>
    match p.line t text with
    | (p, none) => p.lines t rest
    | (p, some fault) => (p, .error (.cannotWrite fault))

end Progress

/-- Writes the attributions of the given lines to a receiver. -/
def annotate (t : SymbolTable) (lines : List (Except Failure String)) (receiver : σ) : Outcome σ :=
  let (p, ended) := Progress.lines t { receiver } lines
  { result := ended.map fun () => p.tally
    diagnostics := p.diagnostics.toList
    receiver := p.receiver }

/-- Writes the attributions of the log at `path` to a receiver. -/
def annotateLog (t : SymbolTable) (files : Files) (path : String) (receiver : σ) : Outcome σ :=
  match files path with
  | .error fault => { result := .error (.cannotOpen path fault), diagnostics := [], receiver }
  | .ok source =>
    let o := annotate t (source.items.map (Except.mapError (Failure.cannotRead path))) receiver
    match o.result with
    | .error _ => o
    | .ok tally => { o with diagnostics := o.diagnostics ++ [.logAnnotated path tally] }

/-- Writes the attributions of the log at `log`, by the listing at `listing`, to a receiver. -/
def annotateFiles (files : Files) (listing log : String) (receiver : σ) : Outcome σ :=
  match Listing.load files listing with
  | (.error failure, told) => { result := .error failure, diagnostics := told, receiver }
  | (.ok table, told) =>
    let o := annotateLog table files log receiver
    let diagnostics := told ++ .tableReady table.size :: o.diagnostics
    match o.result with
    | .error failure => { result := .error failure, diagnostics, receiver := o.receiver }
    | .ok tally =>
      let (receiver, fault) := Receiver.flush o.receiver
      let result := fault.elim (.ok tally) fun fault => .error (.cannotFlush fault)
      { result, diagnostics, receiver }

end Symbolizer
