import Symbolizer.Diagnostic
import Symbolizer.Extent
import Symbolizer.Json.Record

/-!
# The domain's records

The fields under which extents, headers, blocks and tallies are kept as JSON. Counts are kept as
64-bit words.
-/

namespace Symbolizer

open Json (Record Value)

/-- The value of a number that may be absent. -/
def optionalNumber : Option Address → Value
  | some n => .number n
  | none => .absent

/-- The number, which may be absent, that a value is. -/
def optionalNumber? : Value → Option (Option Address)
  | .number n => some (some n)
  | .absent => some none
  | .text _ => none

instance : Record Extent where
  schema := [("name", .text), ("start", .number), ("end_exclusive", .optionalNumber)]
  values e := [.text e.name, .number e.start, optionalNumber e.stop]
  ofValues?
    | [.text name, .number start, stop] =>
      (optionalNumber? stop).map fun stop => { name, start, stop }
    | _ => none

instance : Record Header where
  schema := [("address", .number), ("name", .text)]
  values h := [.number h.address, .text h.name]
  ofValues?
    | [.number address, .text name] => some { address, name }
    | _ => none

instance : Record Block where
  schema := [("timestamp", .text), ("start", .optionalNumber), ("end", .text)]
  values b := [.text b.timestamp, optionalNumber b.start, .text b.stop]
  ofValues?
    | [.text timestamp, start, .text stop] =>
      (optionalNumber? start).map fun start => { timestamp, start, stop }
    | _ => none

instance : Record Tally where
  schema := [("lines_read", .number), ("lines_matched", .number), ("lines_unresolved", .number)]
  values t := [.number (.ofNat t.read), .number (.ofNat t.matched), .number (.ofNat t.unresolved)]
  ofValues?
    | [.number read, .number matched, .number unresolved] =>
      some { read := read.toNat, matched := matched.toNat, unresolved := unresolved.toNat }
    | _ => none

end Symbolizer
