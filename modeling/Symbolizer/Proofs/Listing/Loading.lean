import Mathlib.Order.Bounds.Defs
import Symbolizer.Proofs.Header.Parts
import Symbolizer.Proofs.Listing

/-!
# What loading a listing gives

`Listing.load` reads a listing from its file; `Listing.ofLines` makes a table of lines that are
there already. For a file that can be read both come to the same table, and both tell of each line
whose address does not fit (`Skips`). Loading also tells of the table (`Builds`). It refuses a
listing that announces nothing, so there is a lowest address to tell whenever it gives a table.
`Listing.load_eq_ofLines` puts this together.
-/

namespace Symbolizer

open Text

namespace SymbolTable

variable {lines : List String}

theorem size_ofHeaders (hs : List Header) : (ofHeaders hs).size = hs.length := by
  rw [← size_starts, ← Array.length_toList, toList_starts_ofHeaders, List.length_map,
    Header.sorted, List.length_mergeSort]

/-- A table has a function for each header among its lines. -/
theorem size_ofLines (lines : List String) :
    (ofLines lines).size = lines.countP fun line => (Header.parse? line).isSome :=
  (size_ofHeaders _).trans List.length_filterMap_eq_countP

/-- The lowest start of a table is the lowest address that its lines announce. -/
theorem isLeast_of_lowest?_ofLines {lowest : Address} (h : (ofLines lines).lowest? = some lowest) :
    IsLeast {a | ∃ line ∈ lines, ∃ name, Announces line a name} lowest.toNat := by
  obtain ⟨⟨k, hk, rfl⟩, hle⟩ := lowest?_ofHeaders_eq_some h
  constructor
  · obtain ⟨line, hline, hparse⟩ := List.mem_filterMap.1 hk
    exact ⟨line, hline, k.name, Header.parse?_eq_some_iff.1 hparse⟩
  · rintro a ⟨line, hline, name, hannounces⟩
    exact forall_mem_headers_iff (p := (k.address.toNat ≤ ·)).1 hle line hline a name hannounces

end SymbolTable

namespace Listing

/-- What there is to tell of a line: that it has the shape of a header line, with an address that
does not fit. -/
def Skips (line : String) (x : Diagnostic) : Prop :=
  ∃ digits name, HeaderLine.Shape line.toList digits name ∧ UInt64.size ≤ Hex.value digits ∧
    x.level = .debug ∧ x.message = "skipping header with oversized address" ∧
    x.fields = [⟨"addr", String.ofList digits, true⟩, ⟨"func", String.ofList name, true⟩]

/-- What there is to tell of the table that the file at `path` gives: how many of its lines are
headers, and the lowest address that they announce, without needless zeros. -/
structure Builds (path : String) (lines : List String) (x : Diagnostic) : Prop where
  level_eq : x.level = .info
  message_eq : x.message = "built function index"
  fields_eq : ∃ lowest digits,
    IsLeast {a | ∃ line ∈ lines, ∃ name, Announces line a name} lowest ∧
    Hex.Writes digits lowest ∧
    x.fields = [⟨"path", path, false⟩,
      ⟨"functions", toString (lines.countP fun line => (Header.parse? line).isSome), false⟩,
      ⟨"lowest", "0x" ++ String.ofList digits, false⟩]

theorem diagnostic?_eq_some_iff {line : String} {x : Diagnostic} :
    diagnostic? line = some x ↔ Skips line x := by
  rw [diagnostic?_iff_parts]
  constructor
  · rintro ⟨p, hp, hover, rfl⟩
    exact ⟨_, _, HeaderLine.shape_iff.2 ⟨p, hp, rfl, rfl⟩, hover, rfl, rfl, rfl⟩
  · rintro ⟨_, _, hshape, hover, -, hmessage, hfields⟩
    obtain ⟨p, hp, rfl, rfl⟩ := HeaderLine.shape_iff.1 hshape
    exact ⟨p, hp, hover, Diagnostic.eq_oversizedHeader_iff.2 ⟨hmessage, hfields⟩⟩

/-- A table is told of with its size and its lowest start. -/
theorem builds_tableBuilt (path : String) {lines : List String} {lowest : Address}
    (h : (SymbolTable.ofLines lines).lowest? = some lowest) :
    Builds path lines (.tableBuilt path (SymbolTable.ofLines lines).size lowest) where
  level_eq := rfl
  message_eq := rfl
  fields_eq := by
    refine ⟨_, _, SymbolTable.isLeast_of_lowest?_ofLines h, Hex.writes_ofNat lowest.toNat, ?_⟩
    rw [← SymbolTable.size_ofLines]
    rfl

/-- A file that can be read loads as its lines do: if one of them announces a function, as the table
over them, with a function for each header among them; what is told of the lines is told, and behind
it of the table, which has a lowest start. Otherwise the listing is refused, and what is told of the
lines is all that is told. There is one thing to tell of a line whose address does not fit, and
nothing of any other. -/
theorem load_eq_ofLines {files : Files} {path : String} {source : Source} {bytes : List UInt8}
    (hopen : files path = .ok source) (hholds : source.Holds bytes) :
    (∀ line x, diagnostic? line = some x ↔ Skips line x) ∧
    (∀ line, (Header.parse? line).isSome ↔ ∃ a name, Announces line a name) ∧
    ofLines (textLines bytes) =
      (.ofLines (textLines bytes), (textLines bytes).filterMap diagnostic?) ∧
    ((∃ line ∈ textLines bytes, ∃ a name, Announces line a name) → ∃ x,
      load files path =
        (.ok (.ofLines (textLines bytes)), (textLines bytes).filterMap diagnostic? ++ [x]) ∧
      Builds path (textLines bytes) x ∧
      (SymbolTable.ofLines (textLines bytes)).size =
        (textLines bytes).countP (fun line => (Header.parse? line).isSome) ∧
      (SymbolTable.ofLines (textLines bytes)).starts[0]?.isSome) ∧
    ((∀ line ∈ textLines bytes, ∀ a name, ¬ Announces line a name) →
      load files path =
        (.error (.noHeaders path), (textLines bytes).filterMap diagnostic?) ∧
      (SymbolTable.ofLines (textLines bytes)).size = 0) := by
  have hload := load_of_items hopen hholds.items_eq
  refine ⟨fun line x => diagnostic?_eq_some_iff, fun line => Header.isSome_parse?_iff,
    ofLines_eq _, fun hannounces => ?_, fun hnone => ?_⟩
  · obtain ⟨lowest, hlowest, htable⟩ := ofAllLines_of_exists path hannounces
    exact ⟨_, hload.trans htable, builds_tableBuilt path hlowest, SymbolTable.size_ofLines _,
      Option.isSome_of_mem hlowest⟩
  · refine ⟨hload.trans (ofAllLines_of_forall path hnone), ?_⟩
    rw [SymbolTable.size_ofLines, List.countP_eq_zero]
    intro line hline hsome
    obtain ⟨a, name, h⟩ := Header.isSome_parse?_iff.1 hsome
    exact hnone line hline a name h

/-- The lines of a listing in which functions are out of order and one address does not fit. -/
def mixedLines : List String :=
  ["90 <next>:", "00010000000000000000 <far>:", "\t80\t<first>: ", "70 last:"]

/-- A file of those, and one of a single header whose address does not fit. -/
def mixedFiles : Files
  | "listing" => .ok <| .ofBytes <|
      "90 <next>:\r00010000000000000000 <far>:\n\t80\t<first>: \r\n70 last:".toUTF8.data.toList
  | "wide" => .ok (.ofBytes "10000000000000000 <far>:".toUTF8.data.toList)
  | _ => .error .noSuchFile

/-- The first one loads as a table of two functions, the second one not at all. -/
theorem load_eq_ofLines_mixedFiles :
    (∃ x, load mixedFiles "listing" =
        (.ok (.ofLines mixedLines), [.oversizedHeader ⟨"00010000000000000000", "far"⟩, x]) ∧
      Builds "listing" mixedLines x ∧ (SymbolTable.ofLines mixedLines).size = 2) ∧
      load mixedFiles "wide" =
        (.error (.noHeaders "wide"), [.oversizedHeader ⟨"10000000000000000", "far"⟩]) := by
  constructor
  · obtain ⟨-, -, -, hloads, -⟩ :=
      load_eq_ofLines (show mixedFiles "listing" = _ from rfl) (Source.holds_ofBytes _)
    rw [show textLines _ = mixedLines by decide] at hloads
    have htold : mixedLines.filterMap diagnostic? =
        [.oversizedHeader ⟨"00010000000000000000", "far"⟩] := by decide
    have hannounces : Announces "90 <next>:" 0x90 "next" :=
      Header.parse?_eq_some_iff (h := ⟨0x90, "next"⟩).1 (by decide)
    obtain ⟨x, hload, hbuilds, hsize, -⟩ :=
      hloads ⟨_, List.mem_cons_self, _, _, hannounces⟩
    rw [htold] at hload
    exact ⟨x, hload, hbuilds, hsize.trans (by decide)⟩
  · obtain ⟨-, -, -, -, hrefused⟩ :=
      load_eq_ofLines (show mixedFiles "wide" = _ from rfl) (Source.holds_ofBytes _)
    rw [show textLines _ = ["10000000000000000 <far>:"] by decide] at hrefused
    have hnone : ∀ line ∈ ["10000000000000000 <far>:"], ∀ a n, ¬ Announces line a n :=
      forall_mem_headers_iff (p := fun _ => False).1 (by decide)
    have htold : ["10000000000000000 <far>:"].filterMap diagnostic? =
        [.oversizedHeader ⟨"10000000000000000", "far"⟩] := by decide
    exact htold ▸ (hrefused hnone).1

end Listing

end Symbolizer
