import Symbolizer.Lines

/-!
# Input files

Opening a path gives a `Source` or the fault that prevents it. A source is a file, read as a device
is, or a directory, which opens but refuses every read. `Files` is what a run needs of a file
system; `Directory` is one without nesting, with the faults that path names meet there.

In symtrace a source is the `FileLines` that `open_lines` gives.
-/

namespace Symbolizer

/-- What a path opens: a file under way, or a directory. -/
inductive Source
  | file (reader : Reader)
  | directory
  deriving Repr

namespace Source

/-- A file with the given bytes, not yet read. -/
def ofBytes (bytes : List UInt8) : Source :=
  .file { script := if bytes.isEmpty then [] else [.chunk bytes] }

/-- The next line or fault, or none at an end of input. -/
def next : Source → Option (Except Fault String) × Source
  | file reader => (reader.next.1, .file reader.next.2)
  | directory => (some (.error .isADirectory), .directory)

/-- The lines up to the end, or to the first fault at the least: nothing behind it is looked at. -/
def items : Source → List (Except Fault String)
  | file reader => reader.items
  | directory => [.error .isADirectory]

/-- At most `n` lines and faults, up to the first end of input. -/
def firstItems : Nat → Source → List (Except Fault String)
  | 0, _ => []
  | n + 1, source =>
    match source.next with
    | (none, _) => []
    | (some item, source) => item :: firstItems n source

end Source

/-- What opening each path gives. -/
abbrev Files := String → Except Fault Source

/-- The files of one directory by name, each with its bytes. -/
structure Directory where
  files : List (String × List UInt8)

namespace Directory

/-- The longest path, and the longest name in a path, in bytes. -/
def maxPathSize : Nat := 4095

@[inherit_doc maxPathSize]
def maxNameSize : Nat := 255

/-- Where a path has led so far: to this directory, to one outside of it, of which nothing is known,
or to a file. -/
inductive Place
  | here
  | outside
  | file (bytes : List UInt8)

/-- Where one more name in a path leads. -/
def Place.enter (d : Directory) (place : Place) (name : String) : Except Fault Place :=
  match place with
  | file _ => .error .notADirectory
  | place =>
    if name = "" ∨ name = "." then .ok place
    else if name = ".." then .ok outside
    else if maxNameSize < name.utf8ByteSize then .error .nameTooLong
    else
      match place, d.files.lookup name with
      | here, some bytes => .ok (file bytes)
      | _, _ => .error .noSuchFile

/-- What a place opens as. -/
def Place.source : Place → Source
  | file bytes => .ofBytes bytes
  | _ => .directory

/-- Opens a path from this directory. -/
def openPath (d : Directory) (path : String) : Except Fault Source :=
  if path.contains '\x00' then .error .nulInPath
  else if path = "" then .error .noSuchFile
  else if maxPathSize < path.utf8ByteSize then .error .nameTooLong
  else
    let start := if path.startsWith "/" then Place.outside else .here
    ((path.splitOn "/").foldlM (Place.enter d) start).map Place.source

end Directory

end Symbolizer
