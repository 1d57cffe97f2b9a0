import Mathlib.Data.List.Forall2
import Symbolizer.Proofs.Block
import Symbolizer.Proofs.Run.Writing

/-!
# What a run means

`Finds` says what a line of a log comes to by a listing, in terms of the lines of both alone:
whether it reports a block, and which function the listing puts at the block's start. Every line
comes to exactly one thing, and the table of the listing finds it (`finds_iff`). A run over a whole
log writes what its lines come to, line by line, and counts it (`annotateFiles_eq`).
-/

namespace Symbolizer

/-- What a line of a log comes to: nothing, or a block in no known function, or in one by name. -/
inductive Finding
  | nothing
  | unknown
  | within (function : String)
  deriving DecidableEq, Repr

/-- What is to be written of a line. -/
def Finding.output (line : String) : Finding → String
  | nothing => ""
  | unknown => line ++ " UNKNOWN\n"
  | within function => line ++ " " ++ function ++ "\n"

/-- What a line of a log comes to by a listing. -/
inductive Finds (listing : List String) (line : String) : Finding → Prop
  | nothing (h : ∀ start, ¬ Reports line start) : Finds listing line .nothing
  | within {start : Nat} {function : String} (h : Reports line start) (hfits : start < UInt64.size)
      (howns : Owns listing start function) : Finds listing line (.within function)
  | oversized {start : Nat} (h : Reports line start) (hover : UInt64.size ≤ start) :
      Finds listing line .unknown
  | below {start : Nat} (h : Reports line start)
      (hbelow : ∀ l ∈ listing, ∀ a n, Announces l a n → start < a) : Finds listing line .unknown

namespace Finding

/-- What an attribution, if there is one, says of its line. -/
def ofAttribution : Option Attribution → Finding
  | none => nothing
  | some a => a.function.elim unknown within

theorem output_ofAttribution (t : SymbolTable) (line : String) :
    (ofAttribution (Attribution.ofLine? t line)).output line = Attribution.output t line := by
  rw [Attribution.output, Attribution.ofLine?]
  cases Block.parse? line with
  | none => rfl
  | some b =>
    simp only [Option.map_some, Option.elim_some, ofAttribution, Attribution.text, Attribution.name]
    cases b.start.bind t.nameAt? with
    | none => rw [String.append_assoc, String.append_assoc]; rfl
    | some n => rfl

theorem isSome_iff (o : Option Attribution) : o.isSome ↔ ofAttribution o ≠ nothing := by
  cases o with
  | none => simp [ofAttribution]
  | some a => cases h : a.function <;> simp [ofAttribution, h]

theorem any_not_isResolved_iff (o : Option Attribution) :
    o.any (!·.isResolved) ↔ ofAttribution o = unknown := by
  cases o with
  | none => simp [ofAttribution]
  | some a => cases h : a.function <;> simp [ofAttribution, Attribution.isResolved, h]

end Finding

/-- The table of the listing finds what a line comes to. -/
theorem Finds.ofAttribution_eq {listing : List String} {line : String} {f : Finding}
    (h : Finds listing line f) :
    Finding.ofAttribution (Attribution.ofLine? (.ofLines listing) line) = f := by
  rw [Attribution.ofLine?]
  cases h with
  | nothing h =>
    cases hparse : Block.parse? line with
    | none => rfl
    | some b =>
      obtain ⟨digits, hreports, -⟩ := Reports.of_block hparse
      exact absurd hreports (h _)
  | @within start function h hfits howns =>
    obtain ⟨b, digits, hparse, hstart, hvalue⟩ := h.exists_block
    have hn : start = (UInt64.ofNatLT start hfits).toNat := UInt64.toNat_ofNatLT.symm
    rw [hn] at howns
    rw [hparse, Option.map_some, hstart, Address.ofDigits?_eq_some_iff.2 (hvalue.trans hn),
      Option.bind_some, SymbolTable.nameAt?_ofLines_eq_some_iff.2 howns]
    rfl
  | oversized h hover =>
    obtain ⟨b, digits, hparse, hstart, rfl⟩ := h.exists_block
    rw [hparse, Option.map_some, hstart, Address.ofDigits?_eq_none_iff.2 hover]
    rfl
  | below h hbelow =>
    obtain ⟨b, digits, hparse, hstart, rfl⟩ := h.exists_block
    rw [hparse, Option.map_some, hstart]
    cases ha : Address.ofDigits? digits with
    | none => rfl
    | some a =>
      rw [Address.ofDigits?_eq_some_iff.1 ha] at hbelow
      rw [Option.bind_some, SymbolTable.nameAt?_ofLines_eq_none_iff.2 hbelow]
      rfl

/-- A line comes to what the table of the listing finds. -/
theorem finds_ofAttribution (listing : List String) (line : String) :
    Finds listing line
      (Finding.ofAttribution (Attribution.ofLine? (.ofLines listing) line)) := by
  rw [Attribution.ofLine?]
  cases hparse : Block.parse? line with
  | none =>
    refine .nothing fun start hreports => ?_
    obtain ⟨b, _, hb, -⟩ := hreports.exists_block
    cases hparse.symm.trans hb
  | some b =>
    obtain ⟨digits, hreports, hstart⟩ := Reports.of_block hparse
    rw [Option.map_some, hstart]
    cases ha : Address.ofDigits? digits with
    | none => exact .oversized hreports (Address.ofDigits?_eq_none_iff.1 ha)
    | some a =>
      have hreports := Reports.of_start hparse (hstart.trans ha)
      rw [Option.bind_some]
      cases hname : (SymbolTable.ofLines listing).nameAt? a with
      | none => exact .below hreports (SymbolTable.nameAt?_ofLines_eq_none_iff.1 hname)
      | some n =>
        exact .within hreports a.toNat_lt_size (SymbolTable.nameAt?_ofLines_eq_some_iff.1 hname)

theorem finds_iff {listing : List String} {line : String} {f : Finding} :
    Finds listing line f ↔
      Finding.ofAttribution (Attribution.ofLine? (.ofLines listing) line) = f :=
  ⟨Finds.ofAttribution_eq, fun h => h ▸ finds_ofAttribution listing line⟩

/-- What the lines of a log come to. -/
theorem forall₂_finds_iff {listing lines : List String} {fs : List Finding} :
    List.Forall₂ (Finds listing) lines fs ↔
      fs = lines.map fun line =>
        Finding.ofAttribution (Attribution.ofLine? (.ofLines listing) line) := by
  rw [show Finds listing = fun line f => _ from funext fun _ => funext fun _ => propext finds_iff,
    eq_comm, ← List.forall₂_eq_eq_eq, List.forall₂_map_left_iff]

namespace Progress

theorem countAll_eq_of_findings (t : SymbolTable) (lines : List String) (fs : List Finding)
    (hfs : fs = lines.map fun line => Finding.ofAttribution (Attribution.ofLine? t line)) :
    countAll t {} lines = {
      read := lines.length
      matched := fs.countP (· ≠ .nothing)
      unresolved := fs.count .unknown } := by
  subst hfs
  rw [countAll_eq, List.count, List.countP_map, List.countP_map]
  simp only [Nat.zero_add, Tally.mk.injEq, true_and]
  constructor
  · exact List.countP_congr fun line _ => by simpa using Finding.isSome_iff _
  · exact List.countP_congr fun line _ => by simpa using Finding.any_not_isResolved_iff _

end Progress

theorem Attribution.outputs_eq (t : SymbolTable) (lines : List String) (fs : List Finding)
    (hfs : fs = lines.map fun line => Finding.ofAttribution (Attribution.ofLine? t line)) :
    outputs t lines = String.join (List.zipWith Finding.output lines fs) := by
  subst hfs
  rw [outputs, List.zipWith_map_right]
  simp [Finding.output_ofAttribution]

/-- A run by a listing that announces a function, over a log that is read to its end, into a sink
that takes everything: each line of the log comes to exactly one thing, and these make up what is
written and counted. -/
theorem annotateFiles_eq {files : Files} {listing log : String} {D L : List UInt8} {sink : Sink}
    {source₁ source₂ : Source} (hlisting : files listing = .ok source₁) (hD : source₁.Holds D)
    (hlog : files log = .ok source₂) (hL : source₂.Holds L)
    (hannounces : ∃ line ∈ textLines D, ∃ address name, Announces line address name)
    (hlimit : sink.limit = none) (hflush : sink.flushFault = none) :
    ∃ findings,
      (∀ fs, List.Forall₂ (Finds (textLines D)) (textLines L) fs ↔ fs = findings) ∧
      (annotateFiles files listing log sink).result = .ok {
        read := (textLines L).length
        matched := findings.countP (· ≠ .nothing)
        unresolved := findings.count .unknown } ∧
      (annotateFiles files listing log sink).receiver = { sink with
        taken := sink.taken ++
          (String.join (List.zipWith Finding.output (textLines L) findings)).toUTF8
        flushes := sink.flushes + 1 } := by
  obtain ⟨told, hload⟩ := Listing.load_of_holds hlisting hD hannounces
  refine ⟨_, fun fs => forall₂_finds_iff, ?_⟩
  rw [← Progress.countAll_eq_of_findings _ _ _ rfl, ← Attribution.outputs_eq _ _ _ rfl]
  have hitems : source₂.items.map (Except.mapError (Failure.cannotRead log)) =
      (textLines L).map .ok := by
    rw [hL.items_eq, List.map_map]
    rfl
  obtain ⟨hresult, hreceiver⟩ := annotateLog_of_open (.ofLines (textLines D)) hlog sink
  obtain ⟨htaken, htally⟩ := annotate_eq (.ofLines (textLines D)) ((textLines L).map .ok) sink
  rw [Listing.untilError_map_ok, Sink.write_of_limit_eq_none hlimit] at htaken htally
  rw [hitems, htally] at hresult
  rw [hitems, htaken] at hreceiver
  obtain ⟨hresult, hflushed⟩ := annotateFiles_of_ok hload hresult
  rw [hreceiver] at hresult hflushed
  rw [hresult, hflushed]
  exact ⟨by simp [Receiver.flush, Sink.flush, hflush], rfl⟩

/-- A listing with two functions at one address, and one at an address that does not fit. -/
def sampleListing : List UInt8 :=
  "80 <old>:\n80 <new>:\r10000000000000000 <far>:\r\n90 <next>:".toUTF8.data.toList

/-- A log, up to the middle of a time stamp and from there on. One block of it starts below all
functions, and one at an address that does not fit. -/
def sampleLog : List UInt8 × List UInt8 where
  fst := "[t INFO rv_emu::cpu] Block execution: 0x8f to 0x93\r\nboot\r[".toUTF8.data.toList
  snd := 0xFF :: (" INFO rv_emu::cpu] Block execution: 0x7f to 0x80\n" ++
    "[t INFO rv_emu::cpu] Block execution: 0x10000000000000081 to 0x0").toUTF8.data.toList

/-- The log comes in two chunks, and a request between them is interrupted. -/
def sampleFiles : Files
  | "listing" => .ok (.ofBytes sampleListing)
  | "log" => .ok <| .file {
      script := [.chunk sampleLog.1, .fault { kind := .interrupted }, .chunk sampleLog.2] }
  | _ => .error .noSuchFile

theorem textLines_sampleListing :
    textLines sampleListing =
      ["80 <old>:", "80 <new>:", "10000000000000000 <far>:", "90 <next>:"] := by
  decide

theorem textLines_sampleLog :
    textLines (sampleLog.1 ++ (sampleLog.2 ++ [])) =
      ["[t INFO rv_emu::cpu] Block execution: 0x8f to 0x93", "boot",
        "[\uFFFD INFO rv_emu::cpu] Block execution: 0x7f to 0x80",
        "[t INFO rv_emu::cpu] Block execution: 0x10000000000000081 to 0x0"] := by
  decide +kernel

/-- What the lines of the log come to, the last but one with a start below all functions. -/
theorem forall₂_finds_sample :
    List.Forall₂ (Finds (textLines sampleListing))
      (textLines (sampleLog.1 ++ (sampleLog.2 ++ [])))
      [.within "new", .nothing, .unknown, .unknown] := by
  rw [textLines_sampleListing, textLines_sampleLog]
  have hannounces : Announces "80 <new>:" 0x80 "new" :=
    Header.parse?_eq_some_iff (h := ⟨0x80, "new"⟩).1 (by decide)
  have howns : Owns ["80 <old>:", "80 <new>:", "10000000000000000 <far>:", "90 <next>:"] 0x8f
      "new" := by
    refine ⟨["80 <old>:"], _, _, 0x80, rfl, hannounces, by decide, ?_, ?_⟩
    · exact forall_mem_headers_iff (p := fun n => n ≤ 0x8f → n ≤ 0x80).1 (by decide)
    · exact forall_mem_headers_iff (p := fun n => n ≤ 0x8f → n < 0x80).1 (by decide)
  have hbelow : ∀ l ∈ ["80 <old>:", "80 <new>:", "10000000000000000 <far>:", "90 <next>:"], ∀ a n,
      Announces l a n → 0x7f < a := forall_mem_headers_iff (p := fun n => 0x7f < n).1 (by decide)
  have hfirst : Reports "[t INFO rv_emu::cpu] Block execution: 0x8f to 0x93" 0x8f :=
    Reports.of_start (b := ⟨"t", some 0x8f, "0x93"⟩) (by decide) rfl
  have hthird : Reports "[\uFFFD INFO rv_emu::cpu] Block execution: 0x7f to 0x80" 0x7f :=
    Reports.of_start (b := ⟨"\uFFFD", some 0x7f, "0x80"⟩) (by decide) rfl
  exact .cons (.within hfirst (by decide) howns) (.cons (finds_iff.2 (by decide))
    (.cons (.below hthird hbelow) (.cons (finds_iff.2 (by decide +kernel)) .nil)))

theorem annotateFiles_sampleFiles :
    (annotateFiles sampleFiles "listing" "log" ({} : Sink)).result =
        .ok { read := 4, matched := 3, unresolved := 2 } ∧
      (annotateFiles sampleFiles "listing" "log" ({} : Sink)).receiver.taken =
        ("[t INFO rv_emu::cpu] Block execution: 0x8f to 0x93 new\n" ++
          "[\uFFFD INFO rv_emu::cpu] Block execution: 0x7f to 0x80 UNKNOWN\n" ++
          "[t INFO rv_emu::cpu] Block execution: 0x10000000000000081 to 0x0 UNKNOWN\n").toUTF8 := by
  have hcut : Cut [.chunk sampleLog.1, .fault { kind := .interrupted }, .chunk sampleLog.2]
      (sampleLog.1 ++ (sampleLog.2 ++ [])) :=
    .chunk (by decide) (.interrupted rfl (.chunk (by decide) .nil))
  have hannounces : ∃ line ∈ textLines sampleListing, ∃ address name,
      Announces line address name := by
    rw [textLines_sampleListing]
    exact ⟨"80 <old>:", by decide, 0x80, "old",
      Header.parse?_eq_some_iff (h := ⟨0x80, "old"⟩).1 (by decide)⟩
  have hlisting : sampleFiles "listing" = .ok (.ofBytes sampleListing) := rfl
  have hlimit : ({} : Sink).limit = none := rfl
  obtain ⟨findings, hfindings, hresult, hreceiver⟩ :=
    annotateFiles_eq hlisting (Source.holds_ofBytes _) (show sampleFiles "log" = _ from rfl)
      ⟨_, rfl, hcut⟩ hannounces hlimit rfl
  obtain rfl : [.within "new", .nothing, .unknown, .unknown] = findings :=
    (hfindings _).1 forall₂_finds_sample
  rw [textLines_sampleLog] at hresult hreceiver
  refine ⟨hresult.trans (by decide), ?_⟩
  rw [hreceiver, show ({} : Sink).taken = ByteArray.empty from rfl, ByteArray.empty_append]
  exact congrArg String.toUTF8 (by decide +kernel)

end Symbolizer
