import Symbolizer.Proofs.Block.Parts
import Symbolizer.Proofs.Run.Output

/-!
# Runs over the lines of an earlier run

What a run writes for a block line is no block line again, so a second run has nothing to write
(`annotate_displayed`). The time stamp of a line may take up all of a shorter block line, so this is
a matter of where the last of its events stands: behind that there is room for two addresses, and
for a name as well only if it can be taken for blanks (`Block.isSome_parse?_append_iff`).
-/

namespace Symbolizer

open Text Text.Scan

namespace BlockLine

namespace Ending

/-- The characters from `INFO` up to the event. -/
def opening (e : Ending) : List Char :=
  "INFO".toList ++ e.afterLevel ++ "rv_emu::cpu]".toList ++ e.afterComponent

/-- The characters behind the event. -/
def addresses (e : Ending) : List Char :=
  e.afterEvent ++ ('0' :: 'x' :: (e.start ++ (e.afterStart ++ ("to".toList ++ (e.afterTo ++
    ('0' :: 'x' :: (e.stop ++ e.afterStop)))))))

theorem chars_eq (e : Ending) : e.chars = e.opening ++ (Block.eventWord ++ e.addresses) := by
  have regroup (front event link : List Char) :
      front ++ event ++ e.afterEvent ++ '0' :: 'x' :: e.start ++ e.afterStart ++ link ++
          e.afterTo ++ '0' :: 'x' :: e.stop ++ e.afterStop =
        front ++ (event ++ (e.afterEvent ++ ('0' :: 'x' :: (e.start ++ (e.afterStart ++ (link ++
          (e.afterTo ++ ('0' :: 'x' :: (e.stop ++ e.afterStop))))))))) := by
    simp
  exact regroup _ _ _

/-- No address and nothing around it has the second letter of the event. -/
theorem notMem_addresses (e : Ending) : 'l' ∉ e.addresses := by
  have hblanks {w : List Char} (hw : Blanks w) : 'l' ∉ w :=
    fun h => absurd (hw 'l' h) (by decide)
  have hdigits {d : List Char} (hd : Numeral d) : 'l' ∉ d :=
    fun h => absurd (hd.2 'l' h) (by decide)
  simp [addresses, hblanks e.gap_afterEvent.2, hblanks e.gap_afterStart.2, hblanks e.gap_afterTo.2,
    hblanks e.blanks_afterStop, hdigits e.numeral_start, hdigits e.numeral_stop]

/-- Where the addresses of one line go on as those of another and a text that does not begin with a
digit, the text has been taken for the blanks at the end. -/
theorem afterStop_eq {e e' : Ending} {text : List Char} (htext : Stops Hex.isDigit text)
    (h : e'.addresses = e.addresses ++ text) : e'.afterStop = e.afterStop ++ text := by
  have hzero (rest : List Char) : Stops isBlank ('0' :: 'x' :: rest) := stops_cons (by decide) _
  have hto (rest : List Char) : Stops isBlank ("to".toList ++ rest) := stops_cons (by decide) _
  have hclose {w rest : List Char} (hw : Blanks w) (hrest : Stops Hex.isDigit rest) :
      Stops Hex.isDigit (w ++ rest) := by
    by_cases hne : w = []
    · rwa [hne]
    · exact Gap.stops ⟨hne, hw⟩ rest
  simp only [addresses, List.append_assoc, List.cons_append] at h
  obtain ⟨-, h⟩ := append_inj_of_stops h e'.gap_afterEvent.2 e.gap_afterEvent.2 (hzero _) (hzero _)
  obtain ⟨-, h⟩ := append_inj_of_stops ((List.append_right_inj ['0', 'x']).1 h)
    e'.numeral_start.2 e.numeral_start.2 (e'.gap_afterStart.stops _) (e.gap_afterStart.stops _)
  obtain ⟨-, h⟩ := append_inj_of_stops h e'.gap_afterStart.2 e.gap_afterStart.2 (hto _) (hto _)
  obtain ⟨-, h⟩ := append_inj_of_stops (List.append_cancel_left h) e'.gap_afterTo.2
    e.gap_afterTo.2 (hzero _) (hzero _)
  have hafterStop : Stops Hex.isDigit e'.afterStop := by
    simpa using hclose e'.blanks_afterStop (show Stops Hex.isDigit [] by simp [Stops])
  exact (append_inj_of_stops ((List.append_right_inj ['0', 'x']).1 h) e'.numeral_stop.2
    e.numeral_stop.2 hafterStop (hclose e.blanks_afterStop htext)).2

end Ending

end BlockLine

open BlockLine (Parts)

/-- The text of a line with a name behind it, cut at the line's event. -/
theorem BlockLine.Parts.toList_text_append (p : Parts) (name : String) :
    (p.text ++ " " ++ name).toList = '[' :: p.lead ++ p.ending.opening ++
      (Block.eventWord ++ (p.ending.addresses ++ ' ' :: name.toList)) := by
  rw [text, String.toList_append, String.toList_append, String.toList_ofList, Ending.chars_eq]
  simp only [List.append_assoc]
  rfl

/-- With a name behind it that does not speak of an event, a block line is one only if the name can
be taken for blanks. -/
theorem Block.isSome_parse?_append_iff {line name : String} (h : (Block.parse? line).isSome)
    (hname : ¬ eventWord <:+: name.toList) :
    (Block.parse? (line ++ " " ++ name)).isSome ↔ Blanks name.toList := by
  obtain ⟨p, rfl⟩ := Block.isSome_parse?_iff.1 h
  rw [Block.isSome_parse?_iff]
  have hevent : eventWord = 'B' :: 'l' :: "ock execution:".toList := rfl
  constructor
  · rintro ⟨q, hq⟩ c hc
    -- The last event of the longer line is that of the line itself.
    have hp : ¬ eventWord <:+: p.ending.addresses ++ ' ' :: name.toList := fun hword =>
      hname (infix_of_infix_append_cons hword p.ending.notMem_addresses (by decide) (by decide))
    have hq' : ¬ eventWord <:+: q.ending.addresses := fun hword =>
      q.ending.notMem_addresses (hword.subset (by simp [hevent]))
    have heq := congrArg String.toList hq
    rw [p.toList_text_append, Parts.text, String.toList_ofList, BlockLine.Ending.chars_eq,
      ← List.append_assoc] at heq
    obtain ⟨-, haddresses⟩ := append_inj_of_not_infix heq (by decide) hq' hp
    have hafterStop := BlockLine.Ending.afterStop_eq (stops_cons (by decide) _) haddresses
    exact q.ending.blanks_afterStop c (by simp [hafterStop, hc])
  · intro hblanks
    have hafterStop : Blanks (p.ending.afterStop ++ ' ' :: name.toList) := by
      intro c hc
      rcases List.mem_append.1 hc with hc | hc
      · exact p.ending.blanks_afterStop c hc
      · rcases List.mem_cons.1 hc with rfl | hc
        · decide
        · exact hblanks c hc
    refine ⟨{ p with ending := { p.ending with
      afterStop := p.ending.afterStop ++ ' ' :: name.toList, blanks_afterStop := hafterStop } }, ?_⟩
    rw [← String.toList_inj, p.toList_text_append, Parts.text, String.toList_ofList,
      BlockLine.Ending.chars_eq, BlockLine.Ending.addresses, BlockLine.Ending.addresses]
    simp only [List.append_assoc, List.cons_append]
    rfl

/-! ## A second run -/

/-- A table knows no names but those of its extents. -/
theorem SymbolTable.exists_mem_of_nameAt? {t : SymbolTable} {a : Address} {name : String}
    (h : t.nameAt? a = some name) : ∃ e ∈ t.extents, e.name = name := by
  rw [nameAt?, Option.map_eq_some_iff] at h
  obtain ⟨e, he, rfl⟩ := h
  rw [find?] at he
  split at he
  · cases he
  · exact ⟨e, Array.mem_of_getElem? (Option.filter_eq_some_iff.1 he).1, rfl⟩

namespace Attribution

/-- A name that is not all blank and does not speak of an event. -/
def Foreign (name : String) : Prop :=
  (∃ c ∈ name.toList, isBlank c = false) ∧ ¬ Block.eventWord <:+: name.toList

theorem foreign_unknownName : Foreign unknownName :=
  ⟨⟨'U', by decide⟩, fun h => absurd h.length_le (by decide)⟩

/-- A table without names that could pass for the end of a block line gives none. -/
theorem foreign_name {t : SymbolTable} (ht : ∀ e ∈ t.extents, Foreign e.name)
    {line : String} {a : Attribution} (h : ofLine? t line = some a) : Foreign a.name := by
  rw [ofLine?, Option.map_eq_some_iff] at h
  obtain ⟨b, -, rfl⟩ := h
  rw [name]
  cases hfunction : b.start.bind t.nameAt? with
  | none => exact foreign_unknownName
  | some function =>
    obtain ⟨start, -, hname⟩ := Option.bind_eq_some_iff.1 hfunction
    obtain ⟨e, he, rfl⟩ := SymbolTable.exists_mem_of_nameAt? hname
    exact ht e he

/-- The text of an attribution is no block line. -/
theorem parse?_text_eq_none {t : SymbolTable} {line : String} {a : Attribution}
    (h : ofLine? t line = some a) (hname : Foreign a.name) : Block.parse? a.text = none := by
  obtain ⟨⟨c, hc, hblank⟩, hevent⟩ := hname
  rw [ofLine?, Option.map_eq_some_iff] at h
  obtain ⟨b, hb, rfl⟩ := h
  rw [← Option.not_isSome_iff_eq_none, text,
    Block.isSome_parse?_append_iff (Option.isSome_of_mem hb) hevent]
  intro hblanks
  simp [hblanks c hc] at hblank

/-- The lines, with their functions behind them, that a run writes. -/
def displayed (t : SymbolTable) (lines : List String) : List String :=
  lines.filterMap fun line => (ofLine? t line).map text

theorem outputs_eq_joinEnded (t : SymbolTable) (lines : List String) :
    outputs t lines = joinEnded (displayed t lines) := by
  induction lines with
  | nil => rfl
  | cons line lines ih =>
    rw [outputs_cons, ih, output]
    cases h : ofLine? t line <;> simp [displayed, joinEnded, h]

end Attribution

variable {σ : Type} [Receiver σ]

/-- A run over lines that are no block lines only counts them. -/
theorem annotate_of_forall_parse?_eq_none {lines : List String}
    (h : ∀ line ∈ lines, Block.parse? line = none) (t : SymbolTable) (r : σ) :
    annotate t (lines.map .ok) r = {
      result := .ok { read := lines.length, matched := 0, unresolved := 0 }
      diagnostics := []
      receiver := r } := by
  have hnone : ∀ line ∈ lines, Attribution.ofLine? t line = none := fun line hline => by
    rw [Attribution.ofLine?, h line hline, Option.map_none]
  have htexts : Attribution.texts t lines = [] := by
    rw [Attribution.texts, List.flatMap_eq_nil_iff]
    intro line hline
    rw [hnone line hline, Option.elim_none]
  have htellings : Attribution.tellings t lines = [] := by
    rw [Attribution.tellings, List.filterMap_eq_nil_iff]
    intro line hline
    rw [hnone line hline, Option.bind_none]
  have hcount : Progress.countAll t {} lines =
      { read := lines.length, matched := 0, unresolved := 0 } := by
    rw [Progress.countAll_eq, List.countP_eq_zero.2, List.countP_eq_zero.2]
    · simp
    all_goals
      intro line hline
      simp [hnone line hline]
  have hcourse : Course t r (lines.map .ok) lines r none := .whole rfl (by rw [htexts]; rfl)
  rw [annotate_of_course hcourse, htellings, hcount]
  rfl

/-- Where no name of a table could pass for the end of a block line, nothing that is written by the
table is a block line again. A run by any table over lines that were written so counts them, and
leaves its receiver alone. -/
theorem annotate_displayed {t : SymbolTable} (ht : ∀ e ∈ t.extents, Attribution.Foreign e.name) :
    (∀ line b, Block.parse? line = some b → ∃ a, Attribution.ofLine? t line = some a ∧
        a.text = line ++ " " ++ (b.start.bind t.nameAt?).getD "UNKNOWN" ∧
        Block.parse? a.text = none) ∧
      (∀ (items : List (Except Failure String)) (s : Sink), (annotate t items s).receiver =
        (s.write (joinEnded (Attribution.displayed t (Listing.untilError items).1))).1) ∧
      ∀ (lines : List String) (u : SymbolTable) (r : σ),
        annotate u ((Attribution.displayed t lines).map .ok) r = {
          result := .ok {
            read := (Attribution.displayed t lines).length
            matched := 0
            unresolved := 0 }
          diagnostics := []
          receiver := r } := by
  have hnone {line : String} {a : Attribution} (ha : Attribution.ofLine? t line = some a) :
      Block.parse? a.text = none :=
    Attribution.parse?_text_eq_none ha (Attribution.foreign_name ht ha)
  refine ⟨fun line b hb => ?_, fun items s => ?_, fun lines u r => ?_⟩
  · have ha : Attribution.ofLine? t line = some _ := congrArg (Option.map _) hb
    exact ⟨_, ha, rfl, hnone ha⟩
  · rw [← Attribution.outputs_eq_joinEnded]
    exact (annotate_eq t items s).1
  · refine annotate_of_forall_parse?_eq_none (fun text htext => ?_) u r
    obtain ⟨line, -, h⟩ := List.mem_filterMap.1 htext
    obtain ⟨a, ha, rfl⟩ := Option.map_eq_some_iff.1 h
    exact hnone ha

/-- A table with two names that are like parts of a block line. -/
def likeTable : SymbolTable :=
  .ofOrdered [⟨"[t INFO rv_emu::cpu]\t0x1 to 0x2", 1, some 2⟩,
    ⟨"Block execution 0x1 to 0x2", 2, none⟩] (by decide)

/-- Block lines of which the second has a block line for its time stamp. -/
def nestedLines : List String := [
  "[t INFO rv_emu::cpu] Block execution: 0x1 to 0x2",
  "[[t INFO rv_emu::cpu] Block execution: 0x0 to 0x1 INFO rv_emu::cpu] Block execution: 0x2 to 0x3",
  "[t INFO rv_emu::cpu] Block execution: 0x0 to 0x1 "]

/-- What is written of them. -/
def annotatedLines : List String := [
  "[t INFO rv_emu::cpu] Block execution: 0x1 to 0x2 [t INFO rv_emu::cpu]\t0x1 to 0x2",
  "[[t INFO rv_emu::cpu] Block execution: 0x0 to 0x1 INFO rv_emu::cpu] Block execution: " ++
    "0x2 to 0x3 Block execution 0x1 to 0x2",
  "[t INFO rv_emu::cpu] Block execution: 0x0 to 0x1  UNKNOWN"]

theorem foreign_likeTable : ∀ e ∈ likeTable.extents, Attribution.Foreign e.name := by
  have hextents : likeTable.extents.toList = [⟨"[t INFO rv_emu::cpu]\t0x1 to 0x2", 1, some 2⟩,
    ⟨"Block execution 0x1 to 0x2", 2, none⟩] := rfl
  intro e he
  rw [← Array.mem_toList_iff, hextents, List.mem_pair] at he
  rcases he with rfl | rfl
  · have hletter : 'l' ∉ "[t INFO rv_emu::cpu]\t0x1 to 0x2".toList := by decide
    exact ⟨⟨'t', by decide, by decide⟩, fun hword => hletter (hword.subset (by decide))⟩
  · have hcolon : ':' ∉ "Block execution 0x1 to 0x2".toList := by decide
    exact ⟨⟨'B', by decide, by decide⟩, fun hword => hcolon (hword.subset (by decide))⟩

/-- All three lines are written, and none of what is written is a block line. -/
theorem annotate_displayed_likeTable :
    (annotate likeTable (nestedLines.map .ok) ({} : Sink)).receiver.taken =
        (joinEnded annotatedLines).toUTF8 ∧
      ∀ u : SymbolTable,
        annotate u (annotatedLines.map .ok) ({} : Sink) = {
          result := .ok { read := 3, matched := 0, unresolved := 0 }
          diagnostics := []
          receiver := {} } := by
  have hdisplayed : Attribution.displayed likeTable nestedLines = annotatedLines := by
    decide +kernel
  obtain ⟨-, hwritten, hagain⟩ := annotate_displayed (σ := Sink) foreign_likeTable
  refine ⟨?_, fun u => ?_⟩
  · rw [hwritten, Listing.untilError_map_ok, hdisplayed, Sink.write_of_limit_eq_none rfl]
    exact ByteArray.empty_append
  · have hrun := hagain nestedLines u {}
    rwa [hdisplayed] at hrun

end Symbolizer
