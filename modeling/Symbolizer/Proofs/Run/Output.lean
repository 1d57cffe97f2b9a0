import Mathlib.Data.List.ReduceOption
import Symbolizer.Proofs.Lines.Decoding
import Symbolizer.Proofs.Run.Meaning
import Symbolizer.Proofs.Run.Stages
import Symbolizer.Proofs.Text.Encoding

/-!
# Reading an output back

What a run writes is a text of lines again. Neither a line of a log nor the name of a function holds
the end of a line, and what is decoded from the bytes of a text is that text, so a reader of the
output gives the entries that were written (`Reader.firstAnswers_of_cut_ended`). Where no name holds
a space, each entry can be cut into its line and its name at the last one
(`forall₂_cutsAtLastSpace_iff`). `annotateFiles_read_back` puts this together.
-/

namespace Symbolizer

open Text

/-! ## Texts with an end behind each -/

/-- The bytes of a text in which no line ends do not end one either. -/
theorem Plain.toUTF8 {s : String} (h : Plain s.toList) : Plain s.toUTF8.data.toList := by
  intro b hb
  rw [Tolerant.toList_data_toUTF8] at hb
  obtain ⟨c, hc, hb⟩ := List.mem_flatMap.1 hb
  obtain ⟨hf, hr⟩ : c ≠ '\n' ∧ c ≠ '\r' := h c hc
  constructor
  · rintro rfl
    have hvalue : c.toNat = 0x0A := Tolerant.eq_of_mem_utf8EncodeChar hb (by decide)
    exact hf (Char.toNat_inj.1 hvalue)
  · rintro rfl
    have hvalue : c.toNat = 0x0D := Tolerant.eq_of_mem_utf8EncodeChar hb (by decide)
    exact hr (Char.toNat_inj.1 hvalue)

/-- Texts with an LF behind each. -/
def joinEnded (texts : List String) : String :=
  String.join (texts.map (· ++ "\n"))

theorem joinEnded_singleton (text : String) : joinEnded [text] = text ++ "\n" := by
  simp [joinEnded]

theorem toList_data_joinEnded (texts : List String) :
    (joinEnded texts).toUTF8.data.toList =
      texts.flatMap fun text => text.toUTF8.data.toList ++ [Reader.lineFeed] := by
  induction texts with
  | nil => rfl
  | cons text texts ih =>
    rw [joinEnded, List.map_cons, String.join_cons, ← joinEnded, List.flatMap_cons, ← ih]
    simp only [String.toUTF8_eq_toByteArray, String.toByteArray_append, ByteArray.data_append,
      Array.toList_append]
    rfl

/-- The lineation of texts with an LF behind each. -/
def Lineation.ofEnded (texts : List String) (h : ∀ text ∈ texts, Plain text.toList) :
    Lineation UInt8 where
  ended := texts.map fun text => (text.toUTF8.data.toList, .lineFeed)
  plain p hp := by
    obtain ⟨text, htext, rfl⟩ := List.mem_map.1 hp
    exact (h text htext).toUTF8
  plain_last := by simp
  apart := by
    refine (List.isChain_map _).2 (List.Pairwise.isChain ?_)
    exact List.pairwise_of_forall fun p q => apart_of_ne (by simp) _

/-- Texts in which no line ends, with an LF behind each, are read as they are. -/
theorem Reader.firstAnswers_of_cut_ended {texts : List String}
    (h : ∀ text ∈ texts, Plain text.toList) {script : List Delivery}
    (hcut : Cut script (joinEnded texts).toUTF8.data.toList) (n : Nat) :
    firstAnswers (texts.length + n) { script } =
      texts.map (fun text => some (.ok text)) ++ List.replicate n none := by
  have htext : (Lineation.ofEnded texts h).text = (joinEnded texts).toUTF8.data.toList := by
    rw [toList_data_joinEnded, Lineation.text, Lineation.ofEnded, Lineation.textOf,
      List.flatMap_map]
    simp only [LineEnd.symbols, Option.getD_none, List.append_nil]
    rfl
  have hlines : (Lineation.ofEnded texts h).lines = texts.map (·.toUTF8.data.toList) := by
    simp [Lineation.lines, Lineation.ofEnded, Function.comp_def]
  have hread := firstAnswers_of_cut (e := .ofEnded texts h) (htext ▸ hcut) n
  rw [hlines, List.length_map, List.map_map] at hread
  simpa only [Function.comp_def, Tolerant.decode_toUTF8] using hread

/-! ## Entries -/

/-- A block line with what is written as the name of its function. -/
structure Entry where
  line : String
  name : String
  deriving DecidableEq, Repr

/-- The text of an entry. -/
def Entry.text (e : Entry) : String := e.line ++ " " ++ e.name

/-- The entry that a finding makes of its line, if it makes one. -/
def Finding.entry? (line : String) : Finding → Option Entry
  | nothing => none
  | unknown => some ⟨line, "UNKNOWN"⟩
  | within function => some ⟨line, function⟩

/-- The entries that findings make of their lines, in order. -/
def entries (lines : List String) (fs : List Finding) : List Entry :=
  (List.zipWith Finding.entry? lines fs).reduceOption

theorem entries_cons (line : String) (lines : List String) (f : Finding) (fs : List Finding) :
    entries (line :: lines) (f :: fs) = (f.entry? line).toList ++ entries lines fs := by
  rw [entries, List.zipWith_cons_cons, List.reduceOption, List.filterMap_cons]
  cases f.entry? line <;> rfl

/-- What is written of a line is its entry. -/
theorem Finding.output_eq_joinEnded (line : String) (f : Finding) :
    f.output line = joinEnded ((f.entry? line).toList.map Entry.text) := by
  cases f with
  | nothing => rfl
  | unknown =>
    show line ++ " UNKNOWN\n" = joinEnded [line ++ " " ++ "UNKNOWN"]
    rw [joinEnded_singleton, String.append_assoc, String.append_assoc]
    rfl
  | within function =>
    show line ++ " " ++ function ++ "\n" = joinEnded [line ++ " " ++ function]
    rw [joinEnded_singleton]

/-- What is written is the entries. -/
theorem join_zipWith_output (lines : List String) (fs : List Finding) :
    String.join (List.zipWith Finding.output lines fs) =
      joinEnded ((entries lines fs).map Entry.text) := by
  induction lines generalizing fs with
  | nil => rfl
  | cons line lines ih =>
    cases fs with
    | nil => rfl
    | cons f fs =>
      rw [List.zipWith_cons_cons, String.join_cons, ih, entries_cons, List.map_append, joinEnded,
        joinEnded, List.map_append, String.join_append, Finding.output_eq_joinEnded, joinEnded]

/-- There are as many entries as findings of something. -/
theorem length_entries {lines : List String} {fs : List Finding} (h : lines.length = fs.length) :
    (entries lines fs).length = fs.countP (· ≠ .nothing) := by
  induction lines generalizing fs with
  | nil =>
    rw [List.length_eq_zero_iff.1 h.symm]
    rfl
  | cons line lines ih =>
    cases fs with
    | nil => cases h
    | cons f fs =>
      rw [entries_cons, List.length_append, ih (Nat.succ.inj h), List.countP_cons]
      cases f <;> simp [Finding.entry?, Nat.add_comm]

/-- An entry is made of a line, and named by what the listing announces unless it is unknown. -/
theorem mem_entries_cases {listing lines : List String} {fs : List Finding}
    (h : List.Forall₂ (Finds listing) lines fs) {e : Entry} (he : e ∈ entries lines fs) :
    e.line ∈ lines ∧ (e.name = "UNKNOWN" ∨ ∃ line ∈ listing, ∃ a, Announces line a e.name) := by
  induction h with
  | nil => cases he
  | @cons line f lines fs hline _ ih =>
    rw [entries_cons, List.mem_append, Option.mem_toList] at he
    rcases he with he | he
    · cases hline with
      | nothing => cases he
      | within hreports hfits howns =>
        obtain rfl : (⟨line, _⟩ : Entry) = e := Option.some.inj he
        obtain ⟨before, header, behind, a, rfl, hannounces, -⟩ := howns
        exact ⟨List.mem_cons_self, .inr ⟨header, by simp, a, hannounces⟩⟩
      | oversized | below =>
        obtain rfl : (⟨line, "UNKNOWN"⟩ : Entry) = e := Option.some.inj he
        exact ⟨List.mem_cons_self, .inl rfl⟩
    · exact ⟨List.mem_cons_of_mem _ (ih he).1, (ih he).2⟩

theorem plain_of_mem_textLines {bytes : List UInt8} {line : String} (h : line ∈ textLines bytes) :
    Plain line.toList := by
  obtain ⟨s, hs, rfl⟩ := List.mem_map.1 h
  rcases List.mem_append.1 hs with hs | hs
  · obtain ⟨p, hp, rfl⟩ := List.mem_map.1 hs
    exact ((Lineation.ofList bytes).plain p hp).decode
  · exact ((Lineation.ofList bytes).plain_last s (Option.mem_toList.1 hs)).2.decode

/-- A name stands in the line that announces it. -/
theorem Announces.plain_name {line name : String} {a : Nat} (h : Announces line a name)
    (hline : Plain line.toList) : Plain name.toList := by
  obtain ⟨digits, ⟨before, between, behind, -, -, -, -, -, heq⟩, -⟩ := h
  intro c hc
  refine hline c ?_
  rw [heq]
  simp [hc]

/-- No line ends in an entry. -/
theorem plain_text_of_mem_entries {D L : List UInt8} {fs : List Finding}
    (h : List.Forall₂ (Finds (textLines D)) (textLines L) fs) {e : Entry}
    (he : e ∈ entries (textLines L) fs) : Plain e.text.toList := by
  obtain ⟨hline, hname⟩ := mem_entries_cases h he
  have hline := plain_of_mem_textLines hline
  have hname : Plain e.name.toList := by
    rcases hname with hname | ⟨header, hheader, a, hannounces⟩
    · rw [hname]
      show ∀ c ∈ "UNKNOWN".toList, c ≠ '\n' ∧ c ≠ '\r'
      simp
    · exact hannounces.plain_name (plain_of_mem_textLines hheader)
  have hspace : Plain " ".toList := show ∀ c ∈ " ".toList, c ≠ '\n' ∧ c ≠ '\r' by simp
  rw [Entry.text, String.toList_append, String.toList_append]
  exact (hline.append hspace).append hname

/-! ## Cutting entries -/

/-- A text cut at its last space. -/
def CutsAtLastSpace (text : String) (e : Entry) : Prop :=
  text = e.line ++ " " ++ e.name ∧ ' ' ∉ e.name.toList

/-- What stands behind the last space is the longest run without spaces at the end. -/
theorem CutsAtLastSpace.unique {text : String} {d e : Entry} (hd : CutsAtLastSpace text d)
    (he : CutsAtLastSpace text e) : d = e := by
  obtain ⟨line, name⟩ := d
  obtain ⟨line', name'⟩ := e
  obtain ⟨rfl, hname⟩ := hd
  obtain ⟨heq, hname'⟩ := he
  have hrun {s : List Char} (h : ' ' ∉ s) : ∀ c ∈ s.reverse, (c ≠ ' ' : Bool) := by
    intro c hc
    exact decide_eq_true fun hspace => h (hspace ▸ List.mem_reverse.1 hc)
  have hstops (s : List Char) : Scan.Stops (· ≠ ' ') (' ' :: s.reverse) :=
    Scan.stops_cons (by decide) _
  have hreverse : name.toList.reverse ++ ' ' :: line.toList.reverse =
      name'.toList.reverse ++ ' ' :: line'.toList.reverse := by
    simpa using congrArg (fun s : String => s.toList.reverse) heq
  obtain ⟨hbehind, hbefore⟩ := Scan.append_inj_of_stops hreverse (hrun hname) (hrun hname')
    (hstops _) (hstops _)
  rw [List.reverse_inj, String.toList_inj] at hbehind
  rw [List.cons_inj_right, List.reverse_inj, String.toList_inj] at hbefore
  rw [Entry.mk.injEq]
  exact ⟨hbefore, hbehind⟩

/-- Entries without a space in their names are got back from their texts. -/
theorem forall₂_cutsAtLastSpace_iff {es : List Entry} (h : ∀ e ∈ es, ' ' ∉ e.name.toList)
    (ds : List Entry) : List.Forall₂ CutsAtLastSpace (es.map Entry.text) ds ↔ ds = es := by
  induction es generalizing ds with
  | nil => exact List.forall₂_nil_left_iff
  | cons e es ih =>
    obtain ⟨he, hes⟩ := List.forall_mem_cons.1 h
    have hcut : CutsAtLastSpace e.text e := ⟨rfl, he⟩
    rw [List.map_cons, List.forall₂_cons_left_iff]
    constructor
    · rintro ⟨d, ds, hd, hds, rfl⟩
      rw [hd.unique hcut, (ih hes ds).1 hds]
    · rintro rfl
      exact ⟨e, es, hcut, (ih hes es).2 rfl, rfl⟩

/-! ## The output of a run -/

/-- A listing that gives a table has been read to its end. -/
theorem Listing.Loads.table_eq {files : Files} {path : String} {table : SymbolTable}
    {source : Source} {bytes : List UInt8} (h : Loads files path (.ok table))
    (hopen : files path = .ok source) (hholds : source.Holds bytes) :
    table = .ofLines (textLines bytes) := by
  cases h with
  | @table source' lines hopen' hitems =>
    obtain rfl : source = source' := Except.ok.inj (hopen.symm.trans hopen')
    rw [hholds.items_eq] at hitems
    rw [List.map_injective_iff.2 (fun _ _ => Except.ok.inj) hitems]

theorem Source.Holds.read_eq {source : Source} {bytes : List UInt8} (h : source.Holds bytes)
    (path : String) : source.read path = (textLines bytes).map .ok := by
  rw [Source.read, h.items_eq, List.map_map]
  rfl

/-- A course without a failure takes up all lines. -/
theorem Course.lines_eq {σ : Type} [Receiver σ] {t : SymbolTable} {r r' : σ}
    {lines items : List String} (h : Course t r (items.map .ok) lines r' none) : lines = items := by
  cases h with
  | whole hitems => exact (List.map_injective_iff.2 (fun _ _ => Except.ok.inj) hitems).symm

/-- A run that succeeds into a sink without a limit has written the outputs of all lines of its log,
by the table of its listing. -/
theorem taken_of_result_eq_ok {files : Files} {listing log : String} {D L : List UInt8}
    {sink : Sink} {source₁ source₂ : Source} {tally : Tally}
    (hlisting : files listing = .ok source₁) (hD : source₁.Holds D)
    (hlog : files log = .ok source₂) (hL : source₂.Holds L) (hlimit : sink.limit = none)
    (hresult : (annotateFiles files listing log sink).result = .ok tally) :
    (annotateFiles files listing log sink).receiver.taken = sink.taken ++
        (Attribution.outputs (.ofLines (textLines D)) (textLines L)).toUTF8 ∧
      tally = Progress.countAll (.ofLines (textLines D)) {} (textLines L) := by
  obtain ⟨r', hreceiver⟩ : ∃ r', (annotateFiles files listing log sink).receiver = r' := ⟨_, rfl⟩
  rw [hreceiver]
  cases ends_iff.2 ⟨hresult, hreceiver⟩ with
  | @done table source lines r₁ _ hloads hopen hcourse hflush =>
    obtain rfl := hloads.table_eq hlisting hD
    obtain rfl : source₂ = source := Except.ok.inj (hlog.symm.trans hopen)
    rw [hL.read_eq] at hcourse
    obtain rfl := hcourse.lines_eq
    have hr₁ := hcourse.receiver_eq
    rw [Sink.writeAll_eq_write_join, Attribution.join_texts,
      Sink.write_of_limit_eq_none hlimit] at hr₁
    obtain rfl : r₁.flush.1 = r' := congrArg Prod.fst hflush
    rw [hr₁]
    exact ⟨rfl, rfl⟩

/-- An output of texts with an end behind each is nothing, or ends with an LF. -/
theorem joinEnded_eq_empty_or_getLast? (texts : List String) :
    (joinEnded texts).toUTF8 = .empty ∨
      (joinEnded texts).toUTF8.data.toList.getLast? = some Reader.lineFeed := by
  rcases List.eq_nil_or_concat texts with rfl | ⟨before, text, rfl⟩
  · exact .inl rfl
  · refine .inr ?_
    rw [List.concat_eq_append, toList_data_joinEnded, List.flatMap_append, List.flatMap_singleton,
      ← List.append_assoc, List.getLast?_concat]

/-- A run that succeeds into a sink without a limit leaves behind the entries of its block lines: as
valid text that is empty or ends with an LF, and from which a reader, in whatever chunks it comes,
gets as many lines as were matched, each an entry's. Where no name holds a space, the entries are
got back by cutting the lines at their last space, and in no other way. -/
theorem annotateFiles_read_back {files : Files} {listing log : String} {D L : List UInt8}
    {sink : Sink} {source₁ source₂ : Source} {tally : Tally}
    (hlisting : files listing = .ok source₁) (hD : source₁.Holds D)
    (hlog : files log = .ok source₂) (hL : source₂.Holds L) (hlimit : sink.limit = none)
    (hresult : (annotateFiles files listing log sink).result = .ok tally) :
    ∃ findings output,
      (∀ fs, List.Forall₂ (Finds (textLines D)) (textLines L) fs ↔ fs = findings) ∧
      (annotateFiles files listing log sink).receiver.taken = sink.taken ++ output ∧
      output.IsValidUTF8 ∧
      (output = .empty ∨ output.data.toList.getLast? = some Reader.lineFeed) ∧
      (entries (textLines L) findings).length = tally.matched ∧
      (∀ script, Cut script output.data.toList → ∀ n,
        Reader.firstAnswers (tally.matched + n) { script } =
          (entries (textLines L) findings).map (fun e => some (.ok e.text)) ++
            List.replicate n none) ∧
      ((∀ line ∈ textLines D, ∀ a name, Announces line a name → ' ' ∉ name.toList) →
        ∀ es, List.Forall₂ CutsAtLastSpace ((entries (textLines L) findings).map Entry.text) es ↔
          es = entries (textLines L) findings) := by
  obtain ⟨htaken, htally⟩ := taken_of_result_eq_ok hlisting hD hlog hL hlimit hresult
  obtain ⟨findings, heq⟩ : ∃ findings, findings = (textLines L).map fun line =>
    Finding.ofAttribution (Attribution.ofLine? (.ofLines (textLines D)) line) := ⟨_, rfl⟩
  have hfindings : List.Forall₂ (Finds (textLines D)) (textLines L) findings :=
    forall₂_finds_iff.2 heq
  rw [Attribution.outputs_eq _ _ findings heq, join_zipWith_output] at htaken
  have hmatched : (entries (textLines L) findings).length = tally.matched := by
    rw [htally, Progress.countAll_eq_of_findings _ _ findings heq,
      length_entries hfindings.length_eq]
  have hplain : ∀ text ∈ (entries (textLines L) findings).map Entry.text, Plain text.toList := by
    intro text htext
    obtain ⟨e, he, rfl⟩ := List.mem_map.1 htext
    exact plain_text_of_mem_entries hfindings he
  refine ⟨findings, _, fun fs => heq ▸ forall₂_finds_iff, htaken, String.isValidUTF8 _,
    joinEnded_eq_empty_or_getLast? _, hmatched, fun script hcut n => ?_, fun hspace es => ?_⟩
  · have hread := Reader.firstAnswers_of_cut_ended hplain hcut n
    rwa [List.length_map, List.map_map, hmatched] at hread
  · refine forall₂_cutsAtLastSpace_iff (fun e he => ?_) es
    obtain ⟨-, hname | ⟨line, hline, a, hannounces⟩⟩ := mem_entries_cases hfindings he
    · rw [hname]
      decide
    · exact hspace line hline a e.name hannounces

theorem exists_holds_sampleLog : ∃ source, sampleFiles "log" = .ok source ∧
    source.Holds (sampleLog.1 ++ (sampleLog.2 ++ [])) := by
  have hcut : Cut [.chunk sampleLog.1, .fault { kind := .interrupted }, .chunk sampleLog.2]
      (sampleLog.1 ++ (sampleLog.2 ++ [])) :=
    .chunk (by decide) (.interrupted rfl (.chunk (by decide) .nil))
  exact ⟨_, rfl, _, rfl, hcut⟩

theorem exists_result_sampleFiles :
    ∃ tally, (annotateFiles sampleFiles "listing" "log" ({} : Sink)).result = .ok tally := by
  have hannounces : ∃ line ∈ textLines sampleListing, ∃ a n, Announces line a n := by
    rw [textLines_sampleListing]
    exact ⟨"80 <old>:", by decide, 0x80, "old",
      Header.parse?_eq_some_iff (h := ⟨0x80, "old"⟩).1 (by decide)⟩
  have hloads : Listing.Loads sampleFiles "listing" (.ok (.ofLines (textLines sampleListing))) :=
    .table rfl (Source.holds_ofBytes _).items_eq hannounces
  obtain ⟨source, hopen, hholds⟩ := exists_holds_sampleLog
  have hwrite (texts : List String) : Receiver.writeAll ({} : Sink) texts = (_, none) :=
    (Sink.writeAll_eq_write_join _ _).trans (Sink.write_of_limit_eq_none rfl _)
  have hends := Ends.done hloads hopen (.whole (hholds.read_eq "log") (hwrite _)) rfl
  exact ⟨_, hends.outcome_eq.1⟩

/-- What the lines of the sample log are written with. -/
def sampleEntries : List Entry := [
  ⟨"[t INFO rv_emu::cpu] Block execution: 0x8f to 0x93", "new"⟩,
  ⟨"[\uFFFD INFO rv_emu::cpu] Block execution: 0x7f to 0x80", "UNKNOWN"⟩,
  ⟨"[t INFO rv_emu::cpu] Block execution: 0x10000000000000081 to 0x0", "UNKNOWN"⟩]

/-- The output of the sample run is read as three lines, and cut into their parts in one way. -/
theorem annotateFiles_read_back_sampleFiles :
    ∃ output, (annotateFiles sampleFiles "listing" "log" ({} : Sink)).receiver.taken = output ∧
      (∀ script, Cut script output.data.toList → Reader.firstAnswers 4 { script } =
        sampleEntries.map (fun e => some (.ok e.text)) ++ [none]) ∧
      ∀ es, List.Forall₂ CutsAtLastSpace (sampleEntries.map Entry.text) es ↔
        es = sampleEntries := by
  obtain ⟨source, hopen, hholds⟩ := exists_holds_sampleLog
  obtain ⟨tally, hresult⟩ := exists_result_sampleFiles
  have hlisting : sampleFiles "listing" = .ok (.ofBytes sampleListing) := rfl
  obtain ⟨findings, output, hfindings, htaken, -, -, hmatched, hread, hcut⟩ :=
    annotateFiles_read_back hlisting (Source.holds_ofBytes _) hopen hholds rfl hresult
  obtain rfl : [.within "new", .nothing, .unknown, .unknown] = findings :=
    (hfindings _).1 forall₂_finds_sample
  have hentries : entries (textLines (sampleLog.1 ++ (sampleLog.2 ++ [])))
      [.within "new", .nothing, .unknown, .unknown] = sampleEntries := by
    rw [textLines_sampleLog]
    rfl
  rw [hentries] at hmatched hread hcut
  refine ⟨output, ?_, fun script h => ?_, hcut ?_⟩
  · rw [htaken]
    exact ByteArray.empty_append
  · rw [← hmatched] at hread
    exact hread script h 1
  · intro line hline a name hannounces
    obtain ⟨k, hk, -, rfl⟩ := hannounces.exists_header
    have hnames : ∀ k ∈ (textLines sampleListing).filterMap Header.parse?, ' ' ∉ k.name.toList := by
      rw [textLines_sampleListing]
      decide
    exact hnames k (List.mem_filterMap.2 ⟨line, hline, hk⟩)

end Symbolizer
