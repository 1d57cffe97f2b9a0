import Symbolizer.Proofs.Lines.Concatenation
import Symbolizer.Proofs.Run.Output

/-!
# Logs in parts

A log may be cut behind the end of a line and its parts annotated one by one: put together, their
outputs are the output of the whole log, and so are their counts (`annotateLog_append`). If the cut
is between a CR and an LF, the second part begins with an empty line that the whole log does not
have. It is no block line, so it is seen in the number of lines read alone.
-/

namespace Symbolizer

variable {L M : List UInt8}

/-- The lines of a log are the lines of its parts, but for an empty line that a CR LF cut in two
leaves at the start of the second. -/
theorem textLines_append_cases (h : EndsLine L) (M : List UInt8) :
    (¬ Joined L M ∧ textLines (L ++ M) = textLines L ++ textLines M) ∨
      Joined L M ∧ ∃ lines, textLines (L ++ M) = textLines L ++ lines ∧
        textLines M = "" :: lines := by
  simp only [textLines]
  by_cases hcut : Joined L M
  · obtain ⟨hreturn, hfeed⟩ := hcut
    obtain ⟨N, rfl⟩ := List.head?_eq_some_iff.1 hfeed
    obtain ⟨hwhole, hsecond⟩ := Lineation.lines_ofList_append_joined hreturn N
    refine .inr ⟨⟨hreturn, hfeed⟩, (Lineation.ofList N).lines.map Text.Tolerant.decode, ?_, ?_⟩
    · rw [hwhole, List.map_append]
    · rw [hsecond]
      rfl
  · exact .inl ⟨hcut, by rw [Lineation.lines_ofList_append h hcut, List.map_append]⟩

namespace Attribution

theorem outputs_append (t : SymbolTable) (lines more : List String) :
    outputs t (lines ++ more) = outputs t lines ++ outputs t more := by
  rw [outputs, List.map_append, String.join_append, outputs, outputs]

/-- An empty line is no block line. -/
theorem ofLine?_empty (t : SymbolTable) : ofLine? t "" = none := by
  rw [ofLine?, Option.map_eq_none_iff]
  decide

theorem outputs_cons_empty (t : SymbolTable) (lines : List String) :
    outputs t ("" :: lines) = outputs t lines := by
  rw [outputs_cons, output, ofLine?_empty, Option.elim_none, String.empty_append]

end Attribution

open Attribution (outputs)

/-- Counts of lines add up. -/
theorem Progress.countAll_append (t : SymbolTable) (lines more : List String) :
    countAll t {} (lines ++ more) = {
      read := (countAll t {} lines).read + (countAll t {} more).read
      matched := (countAll t {} lines).matched + (countAll t {} more).matched
      unresolved := (countAll t {} lines).unresolved + (countAll t {} more).unresolved } := by
  simp [countAll_eq]

/-- An empty line counts as read and as nothing else. -/
theorem Progress.countAll_cons_empty (t : SymbolTable) (lines : List String) :
    countAll t {} ("" :: lines) =
      { countAll t {} lines with read := (countAll t {} lines).read + 1 } := by
  simp [countAll_eq, Attribution.ofLine?_empty]

/-- A run over a log that can be read, into a sink without a limit, goes through all its lines. -/
theorem annotateLog_of_holds {files : Files} {path : String} {source : Source} {sink : Sink}
    (hopen : files path = .ok source) (hL : source.Holds L) (hlimit : sink.limit = none)
    (t : SymbolTable) :
    (annotateLog t files path sink).result = .ok (Progress.countAll t {} (textLines L)) ∧
      (annotateLog t files path sink).receiver.taken =
        sink.taken ++ (outputs t (textLines L)).toUTF8 := by
  have hwrite : Receiver.writeAll sink (Attribution.texts t (textLines L)) =
      ({ sink with taken := sink.taken ++ (outputs t (textLines L)).toUTF8 }, none) := by
    rw [Sink.writeAll_eq_write_join, Attribution.join_texts, Sink.write_of_limit_eq_none hlimit]
  rw [annotateLog_of_course hopen (.whole (hL.read_eq path) hwrite)]
  exact ⟨rfl, rfl⟩

/-- A log whose first part is empty or ends where a line ends is annotated as its two parts are, one
after the other: what is written is what is written for the first part and behind it what is written
for the second, and as many lines are matched, and unresolved, as in both. As many are read as in
both, too, but for one less if a CR LF is cut in two. -/
theorem annotateLog_append (t : SymbolTable) {files : Files} {whole first second : String}
    {source source₁ source₂ : Source} {sink sink₁ sink₂ : Sink}
    (hopen : files whole = .ok source) (hwhole : source.Holds (L ++ M))
    (hopen₁ : files first = .ok source₁) (hfirst : source₁.Holds L)
    (hopen₂ : files second = .ok source₂) (hsecond : source₂.Holds M)
    (hlimit : sink.limit = none) (hlimit₁ : sink₁.limit = none) (hlimit₂ : sink₂.limit = none)
    (hend : EndsLine L) :
    ∃ output₁ output₂ tally tally₁ tally₂,
      (annotateLog t files whole sink).result = .ok tally ∧
      (annotateLog t files first sink₁).result = .ok tally₁ ∧
      (annotateLog t files second sink₂).result = .ok tally₂ ∧
      (annotateLog t files first sink₁).receiver.taken = sink₁.taken ++ output₁ ∧
      (annotateLog t files second sink₂).receiver.taken = sink₂.taken ++ output₂ ∧
      (annotateLog t files whole sink).receiver.taken = sink.taken ++ (output₁ ++ output₂) ∧
      tally.matched = tally₁.matched + tally₂.matched ∧
      tally.unresolved = tally₁.unresolved + tally₂.unresolved ∧
      tally.read + (if Joined L M then 1 else 0) = tally₁.read + tally₂.read := by
  obtain ⟨hresult, htaken⟩ := annotateLog_of_holds hopen hwhole hlimit t
  obtain ⟨hresult₁, htaken₁⟩ := annotateLog_of_holds hopen₁ hfirst hlimit₁ t
  obtain ⟨hresult₂, htaken₂⟩ := annotateLog_of_holds hopen₂ hsecond hlimit₂ t
  refine ⟨_, _, _, _, _, hresult, hresult₁, hresult₂, htaken₁, htaken₂, ?_⟩
  simp only [htaken, String.toUTF8_eq_toByteArray, ← String.toByteArray_append]
  rcases textLines_append_cases hend M with ⟨hcut, hlines⟩ | ⟨hcut, lines, hlines, hM⟩
  · rw [hlines, Attribution.outputs_append, Progress.countAll_append, if_neg hcut]
    exact ⟨rfl, rfl, rfl, rfl⟩
  · rw [hlines, hM, Attribution.outputs_append, Attribution.outputs_cons_empty,
      Progress.countAll_append, Progress.countAll_cons_empty, if_pos hcut]
    exact ⟨rfl, rfl, rfl, Nat.add_assoc _ _ 1⟩

/-- Two parts of a log, cut between a CR and an LF: a block in a function, and one below it. -/
def cutLog : List UInt8 × List UInt8 where
  fst := "[a INFO rv_emu::cpu] Block execution: 0x11 to 0x12\r".toUTF8.data.toList
  snd := "\nboot\n[b INFO rv_emu::cpu] Block execution: 0x8 to 0xF".toUTF8.data.toList

/-- A table of one function. -/
def cutTable : SymbolTable := .ofHeaders [⟨0x10, "f"⟩]

/-- The log and its parts. -/
def cutFiles : Files
  | "log" => .ok (.ofBytes (cutLog.1 ++ cutLog.2))
  | "log.0" => .ok (.ofBytes cutLog.1)
  | "log.1" => .ok (.ofBytes cutLog.2)
  | _ => .error .noSuchFile

/-- The second part has an empty line more than the log has there. -/
theorem annotateLog_append_cutFiles :
    (annotateLog cutTable cutFiles "log.0" ({} : Sink)).result =
        .ok { read := 1, matched := 1, unresolved := 0 } ∧
      (annotateLog cutTable cutFiles "log.1" ({} : Sink)).result =
        .ok { read := 3, matched := 1, unresolved := 1 } ∧
      (annotateLog cutTable cutFiles "log" ({} : Sink)).result =
        .ok { read := 3, matched := 2, unresolved := 1 } ∧
      (annotateLog cutTable cutFiles "log" ({} : Sink)).receiver.taken =
        (annotateLog cutTable cutFiles "log.0" ({} : Sink)).receiver.taken ++
          (annotateLog cutTable cutFiles "log.1" ({} : Sink)).receiver.taken := by
  have hfiles : cutFiles "log" = .ok (.ofBytes (cutLog.1 ++ cutLog.2)) ∧
      cutFiles "log.0" = .ok (.ofBytes cutLog.1) ∧ cutFiles "log.1" = .ok (.ofBytes cutLog.2) :=
    ⟨rfl, rfl, rfl⟩
  have hlimit : ({} : Sink).limit = none := rfl
  have hend : EndsLine cutLog.1 := .inr (.inr (by decide))
  have hjoined : Joined cutLog.1 cutLog.2 := by decide
  obtain ⟨_, _, ⟨read, matched, unresolved⟩, tally₁, tally₂, hresult, hresult₁, hresult₂, htaken₁,
      htaken₂, htaken, hmatched, hunresolved, hread⟩ :=
    annotateLog_append cutTable hfiles.1 (Source.holds_ofBytes _) hfiles.2.1
      (Source.holds_ofBytes _) hfiles.2.2 (Source.holds_ofBytes _) hlimit hlimit hlimit hend
  obtain rfl : { read := 1, matched := 1, unresolved := 0 } = tally₁ := by
    have hholds := annotateLog_of_holds hfiles.2.1 (Source.holds_ofBytes _) hlimit cutTable
    exact Except.ok.inj (.trans (by decide +kernel) (hholds.1.symm.trans hresult₁))
  obtain rfl : { read := 3, matched := 1, unresolved := 1 } = tally₂ := by
    have hholds := annotateLog_of_holds hfiles.2.2 (Source.holds_ofBytes _) hlimit cutTable
    exact Except.ok.inj (.trans (by decide +kernel) (hholds.1.symm.trans hresult₂))
  rw [if_pos hjoined] at hread
  obtain ⟨rfl, rfl, rfl⟩ : read = 3 ∧ matched = 2 ∧ unresolved = 1 :=
    ⟨Nat.succ.inj hread, hmatched, hunresolved⟩
  have hempty : ({} : Sink).taken = .empty := rfl
  refine ⟨hresult₁, hresult₂, hresult, ?_⟩
  rw [htaken, htaken₁, htaken₂, hempty]
  simp only [ByteArray.empty_append]

end Symbolizer
