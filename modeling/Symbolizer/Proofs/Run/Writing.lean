import Symbolizer.Proofs.Listing
import Symbolizer.Run
import Symbolizer.Sink

/-!
# What a run writes

To a sink, a step of a run is one write of the line's output (`Progress.line_eq`), so a run up to
the first fault of its lines is one write of their outputs together (`Progress.lines_eq`). Whether
that write is refused decides how the run ends.
-/

namespace Symbolizer

/-- A write without a limit is taken whole. -/
theorem Sink.write_of_limit_eq_none {s : Sink} (h : s.limit = none) (text : String) :
    s.write text = ({ s with taken := s.taken ++ text.toUTF8 }, none) := by
  obtain ⟨taken, limit, refusal, flushFault, flushes⟩ := s
  obtain rfl : limit = none := h
  simp [write, accepts]

/-- What a run writes for a line. -/
def Attribution.output (t : SymbolTable) (line : String) : String :=
  (ofLine? t line).elim "" fun a => a.text ++ "\n"

/-- What a run writes for some lines. -/
def Attribution.outputs (t : SymbolTable) (lines : List String) : String :=
  String.join (lines.map (output t))

theorem Attribution.outputs_cons (t : SymbolTable) (line : String) (lines : List String) :
    outputs t (line :: lines) = output t line ++ outputs t lines := by
  rw [outputs, List.map_cons, String.join_cons, outputs]

namespace Progress

/-- The counts behind some lines. -/
def countAll (t : SymbolTable) (tally : Tally) (lines : List String) : Tally :=
  lines.foldl (fun tally line => count tally (Attribution.ofLine? t line)) tally

/-- A line counts as read, as matched if it has an attribution, and as unresolved if that has no
function. -/
theorem countAll_eq (t : SymbolTable) (tally : Tally) (lines : List String) :
    countAll t tally lines = {
      read := tally.read + lines.length
      matched := tally.matched + lines.countP fun line => (Attribution.ofLine? t line).isSome
      unresolved := tally.unresolved +
        lines.countP fun line => (Attribution.ofLine? t line).any (!·.isResolved) } := by
  induction lines generalizing tally with
  | nil => rfl
  | cons line lines ih =>
    rw [countAll, List.foldl_cons, ← countAll, ih, List.countP_cons, List.countP_cons]
    cases Attribution.ofLine? t line with
    | none =>
      simp [count]
      omega
    | some a =>
      cases h : a.isResolved
      all_goals
        simp [count, h]
        omega

/-- One step is one write. -/
theorem line_eq (t : SymbolTable) (p : Progress Sink) (text : String) :
    p.line t text =
      ({ tally := count p.tally (Attribution.ofLine? t text)
         diagnostics := p.diagnostics ++ ((Attribution.ofLine? t text).bind told).toArray
         receiver := (p.receiver.write (Attribution.output t text)).1 },
        (p.receiver.write (Attribution.output t text)).2) := by
  rw [line, Attribution.output]
  cases Attribution.ofLine? t text with
  | none => simp [Sink.write_empty]
  | some a =>
    simp only [Sink.writeAll_eq_write_join, Attribution.join_pieces, Option.bind_some]
    cases told a <;> simp

/-- A run is one write of what its lines make, up to the first fault among them. -/
theorem lines_eq (t : SymbolTable) (p : Progress Sink) (items : List (Except Failure String)) :
    (p.lines t items).1.receiver =
        (p.receiver.write (Attribution.outputs t (Listing.untilError items).1)).1 ∧
      match p.receiver.write (Attribution.outputs t (Listing.untilError items).1) with
      | (_, some fault) => (p.lines t items).2 = .error (.cannotWrite fault)
      | (_, none) =>
        (p.lines t items).1.tally = countAll t p.tally (Listing.untilError items).1 ∧
          (p.lines t items).2 = (Listing.untilError items).2.elim (.ok ()) .error := by
  induction items generalizing p with
  | nil =>
    rw [lines, Listing.untilError_nil]
    simp [Attribution.outputs, Sink.write_empty, countAll]
  | cons item items ih =>
    cases item with
    | error failure =>
      rw [lines, Listing.untilError_error]
      simp [Attribution.outputs, Sink.write_empty, countAll]
    | ok text =>
      rw [lines, line_eq, Listing.untilError_ok, Attribution.outputs_cons, Sink.write_append]
      rcases hw : p.receiver.write (Attribution.output t text) with ⟨s, _ | fault⟩
      · exact ih _
      · exact ⟨rfl, rfl⟩

end Progress

/-- A run into a sink writes the outputs of the lines before the first fault among them. It fails
with the fault of that write, or else with that of the lines, or else ends with the counts. -/
theorem annotate_eq (t : SymbolTable) (items : List (Except Failure String)) (s : Sink) :
    (annotate t items s).receiver =
        (s.write (Attribution.outputs t (Listing.untilError items).1)).1 ∧
      (annotate t items s).result =
        match s.write (Attribution.outputs t (Listing.untilError items).1) with
        | (_, some fault) => .error (.cannotWrite fault)
        | (_, none) =>
          (Listing.untilError items).2.elim
            (.ok (Progress.countAll t {} (Listing.untilError items).1)) .error := by
  obtain ⟨hreceiver, hended⟩ := Progress.lines_eq t { receiver := s } items
  refine ⟨hreceiver, ?_⟩
  rw [show (annotate t items s).result = (Progress.lines t { receiver := s } items).2.map
    fun () => (Progress.lines t { receiver := s } items).1.tally from rfl]
  rcases hw : s.write (Attribution.outputs t (Listing.untilError items).1) with ⟨s', _ | fault⟩
  · rw [hw] at hended
    obtain ⟨htally, hended⟩ := hended
    rw [htally, hended]
    cases (Listing.untilError items).2 <;> rfl
  · rw [hw] at hended
    rw [show (Progress.lines t { receiver := s } items).2 = _ from hended]
    rfl

variable {σ : Type} [Receiver σ]

/-- A log that opens ends its run as its lines do. -/
theorem annotateLog_of_open (t : SymbolTable) {files : Files} {path : String} {source : Source}
    (h : files path = .ok source) (r : σ) :
    (annotateLog t files path r).result =
        (annotate t (source.items.map (Except.mapError (Failure.cannotRead path))) r).result ∧
      (annotateLog t files path r).receiver =
        (annotate t (source.items.map (Except.mapError (Failure.cannotRead path))) r).receiver := by
  simp only [annotateLog, h]
  split <;> exact ⟨rfl, rfl⟩

/-- Behind a run over the whole log only the flush is left. -/
theorem annotateFiles_of_ok {files : Files} {listing log : String} {t : SymbolTable}
    {told : List Diagnostic} {tally : Tally} {r : σ}
    (hload : Listing.load files listing = (.ok t, told))
    (hlog : (annotateLog t files log r).result = .ok tally) :
    (annotateFiles files listing log r).result =
        (Receiver.flush (annotateLog t files log r).receiver).2.elim (.ok tally)
          (fun fault => .error (.cannotFlush fault)) ∧
      (annotateFiles files listing log r).receiver =
        (Receiver.flush (annotateLog t files log r).receiver).1 := by
  simp [annotateFiles, hload, hlog]

end Symbolizer
