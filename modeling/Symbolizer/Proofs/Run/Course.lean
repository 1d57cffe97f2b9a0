import Symbolizer.Proofs.Run.Outcome

/-!
# The course of a run

A run takes up the lines of a log one after the other. `Course` says how far it gets with a given
receiver, in terms of what is written alone: to the end of the lines, to a line that is not there,
or to a line whose attribution is refused. Every run has a course (`exists_course`), and the course
says all that it leaves behind: its counts, what it told, the receiver and its failure
(`Progress.lines_of_course`).
-/

namespace Symbolizer

variable {σ : Type} [Receiver σ] {t : SymbolTable} {r r₁ r' : σ}

namespace Attribution

/-- The texts that a run writes for some lines. -/
def texts (t : SymbolTable) (lines : List String) : List String :=
  lines.flatMap fun line => (ofLine? t line).elim [] pieces

/-- What there is to tell of some lines. -/
def tellings (t : SymbolTable) (lines : List String) : List Diagnostic :=
  lines.filterMap fun line => (ofLine? t line).bind Progress.told

theorem texts_append (t : SymbolTable) (lines more : List String) :
    texts t (lines ++ more) = texts t lines ++ texts t more :=
  List.flatMap_append

theorem tellings_append (t : SymbolTable) (lines more : List String) :
    tellings t (lines ++ more) = tellings t lines ++ tellings t more :=
  List.filterMap_append

theorem join_texts (t : SymbolTable) (lines : List String) :
    String.join (texts t lines) = outputs t lines := by
  induction lines with
  | nil => rfl
  | cons line lines ih =>
    have hline : String.join (texts t [line]) = output t line := by
      rw [texts, List.flatMap_singleton, output]
      cases ofLine? t line with
      | none => rfl
      | some a => exact a.join_pieces
    rw [← List.singleton_append, texts_append, String.join_append, hline, ih]
    exact (outputs_cons t line lines).symm

end Attribution

open Attribution (texts tellings)

theorem Receiver.writeAll_append (s : σ) (texts more : List String) :
    writeAll s (texts ++ more) =
      match writeAll s texts with
      | (s, none) => writeAll s more
      | (s, some fault) => (s, some fault) := by
  induction texts generalizing s with
  | nil => rfl
  | cons text texts ih =>
    rw [List.cons_append, writeAll, writeAll]
    rcases write s text with ⟨s, _ | fault⟩
    · exact ih s
    · rfl

/-- How a run by the table `t` into the receiver `r` goes: which lines it takes up, what the
receiver is behind them, and the failure that ends it, if one does. -/
inductive Course (t : SymbolTable) (r : σ) (items : List (Except Failure String)) :
    List String → σ → Option Failure → Prop
  /-- All lines are there, and are written. -/
  | whole {lines : List String} {r' : σ} (hitems : items = lines.map .ok)
      (hwrite : Receiver.writeAll r (texts t lines) = (r', none)) : Course t r items lines r' none
  /-- The lines before one that is not there are written. -/
  | unread {lines : List String} {r' : σ} {failure : Failure}
      {behind : List (Except Failure String)}
      (hitems : items = lines.map .ok ++ .error failure :: behind)
      (hwrite : Receiver.writeAll r (texts t lines) = (r', none)) :
      Course t r items lines r' (some failure)
  /-- The lines before one are written, and that one is refused. -/
  | refused {lines : List String} {line : String} {r₁ r' : σ} {fault : Fault}
      {behind : List (Except Failure String)}
      (hitems : items = lines.map .ok ++ .ok line :: behind)
      (hwrite : Receiver.writeAll r (texts t lines) = (r₁, none))
      (hrefused : Receiver.writeAll r₁ (texts t [line]) = (r', some fault)) :
      Course t r items (lines ++ [line]) r' (some (.cannotWrite fault))

variable {items : List (Except Failure String)} {lines : List String} {failure : Option Failure}

/-- A line that is written comes before the course of a run over the lines behind it. -/
theorem Course.cons {line : String} (hline : Receiver.writeAll r (texts t [line]) = (r₁, none))
    (h : Course t r₁ items lines r' failure) :
    Course t r (.ok line :: items) (line :: lines) r' failure := by
  have hcons {ls : List String} {s : σ} (h : Receiver.writeAll r₁ (texts t ls) = (s, none)) :
      Receiver.writeAll r (texts t (line :: ls)) = (s, none) := by
    rw [← List.singleton_append, Attribution.texts_append, Receiver.writeAll_append, hline]
    exact h
  cases h with
  | whole hitems hwrite => exact .whole (by rw [hitems, List.map_cons]) (hcons hwrite)
  | unread hitems hwrite => exact .unread (by rw [hitems]; rfl) (hcons hwrite)
  | refused hitems hwrite hrefused => exact .refused (by rw [hitems]; rfl) (hcons hwrite) hrefused

/-- The receiver has been asked for nothing but to take the texts of the lines taken up. -/
theorem Course.receiver_eq (h : Course t r items lines r' failure) :
    r' = (Receiver.writeAll r (texts t lines)).1 := by
  cases h with
  | whole hitems hwrite => rw [hwrite]
  | unread hitems hwrite => rw [hwrite]
  | refused hitems hwrite hrefused =>
    rw [Attribution.texts_append, Receiver.writeAll_append, hwrite]
    exact (congrArg Prod.fst hrefused).symm

/-- Whatever the lines and the receiver, a run has a course. -/
theorem exists_course (t : SymbolTable) (r : σ) (items : List (Except Failure String)) :
    ∃ lines r' failure, Course t r items lines r' failure := by
  induction items generalizing r with
  | nil => exact ⟨[], r, none, .whole rfl rfl⟩
  | cons item items ih =>
    cases item with
    | error failure => exact ⟨[], r, some failure, .unread rfl rfl⟩
    | ok line =>
      rcases hline : Receiver.writeAll r (texts t [line]) with ⟨r₁, _ | fault⟩
      · obtain ⟨lines, r', failure, h⟩ := ih r₁
        exact ⟨line :: lines, r', failure, h.cons hline⟩
      · have hnil : Receiver.writeAll r (texts t []) = (r, none) := rfl
        exact ⟨[line], r₁, some (.cannotWrite fault), .refused rfl hnil hline⟩

namespace Progress

/-- A run under way that has taken up some more lines; the receiver is then `r`. -/
def after {σ : Type} (t : SymbolTable) (p : Progress σ) (lines : List String) (r : σ) :
    Progress σ where
  tally := countAll t p.tally lines
  diagnostics := p.diagnostics ++ (tellings t lines).toArray
  receiver := r

/-- Lines can be taken up in two goes. -/
theorem after_after {σ : Type} (t : SymbolTable) (p : Progress σ) (lines more : List String)
    (r₁ r : σ) : (p.after t lines r₁).after t more r = p.after t (lines ++ more) r := by
  simp only [after, countAll, List.foldl_append, Attribution.tellings_append, Array.append_assoc,
    List.append_toArray]

/-- One step counts the line, tells of it, and writes its texts. -/
theorem line_eq_after (t : SymbolTable) (p : Progress σ) (text : String) :
    p.line t text =
      (p.after t [text] (Receiver.writeAll p.receiver (texts t [text])).1,
        (Receiver.writeAll p.receiver (texts t [text])).2) := by
  rw [line, after, countAll, texts, tellings]
  cases h : Attribution.ofLine? t text with
  | none => simp [h, Receiver.writeAll]
  | some a =>
    simp only [h, List.foldl_cons, List.foldl_nil, List.flatMap_singleton, Option.elim_some,
      List.filterMap_cons, Option.bind_some, List.filterMap_nil]
    cases told a <;> simp

/-- Lines that are all written. -/
theorem lines_map_ok {p : Progress σ}
    (h : Receiver.writeAll p.receiver (texts t lines) = (r', none)) :
    p.lines t (lines.map .ok) = (p.after t lines r', .ok ()) := by
  induction lines generalizing p with
  | nil =>
    obtain rfl : p.receiver = r' := congrArg Prod.fst h
    simp [Progress.lines, after, countAll, tellings]
  | cons line lines ih =>
    rw [← List.singleton_append, Attribution.texts_append, Receiver.writeAll_append] at h
    rw [List.map_cons, Progress.lines, line_eq_after]
    rcases hline : Receiver.writeAll p.receiver (texts t [line]) with ⟨r₁, _ | fault⟩
    · rw [hline] at h
      refine (ih h).trans ?_
      rw [after_after, List.singleton_append]
    · rw [hline] at h
      cases congrArg Prod.snd h

/-- The course of a run says all that the run leaves behind. -/
theorem lines_of_course {p : Progress σ} (h : Course t p.receiver items lines r' failure) :
    p.lines t items = (p.after t lines r', failure.elim (.ok ()) .error) := by
  cases h with
  | whole hitems hwrite => rw [hitems, lines_map_ok hwrite]; rfl
  | unread hitems hwrite => rw [hitems, lines_append, lines_map_ok hwrite]; rfl
  | @refused lines line r₁ _ fault behind hitems hwrite hrefused =>
    have hline : (p.after t lines r₁).line t line =
        (p.after t (lines ++ [line]) r', some fault) := by
      rw [line_eq_after, ← after_after t p lines [line] r₁]
      exact congrArg (fun w => ((p.after t lines r₁).after t [line] w.1, w.2)) hrefused
    rw [hitems, lines_append, lines_map_ok hwrite]
    simp only [Progress.lines, hline]
    rfl

end Progress

/-- A run leaves behind what its course says. -/
theorem annotate_of_course (h : Course t r items lines r' failure) :
    annotate t items r = {
      result := failure.elim (.ok (Progress.countAll t {} lines)) .error
      diagnostics := tellings t lines
      receiver := r' } := by
  have hlines := Progress.lines_of_course (p := { receiver := r }) h
  simp only [annotate, hlines, Progress.after]
  cases failure <;> simp [Except.map]

/-- The lines of the file at `path`, up to a failure to read it. -/
def Source.read (source : Source) (path : String) : List (Except Failure String) :=
  source.items.map (Except.mapError (Failure.cannotRead path))

/-- A run over a log that does not open leaves its receiver alone, and tells nothing. -/
theorem annotateLog_of_shut {files : Files} {path : String} {fault : Fault}
    (h : files path = .error fault) (t : SymbolTable) (r : σ) :
    annotateLog t files path r =
      { result := .error (.cannotOpen path fault), diagnostics := [], receiver := r } := by
  simp only [annotateLog, h]

/-- A run over a log that opens leaves behind what its course says, and tells of its counts if it
came to the end. -/
theorem annotateLog_of_course {files : Files} {path : String} {source : Source}
    (hopen : files path = .ok source) (h : Course t r (source.read path) lines r' failure) :
    annotateLog t files path r = {
      result := failure.elim (.ok (Progress.countAll t {} lines)) .error
      diagnostics := tellings t lines ++
        failure.elim [.logAnnotated path (Progress.countAll t {} lines)] fun _ => []
      receiver := r' } := by
  have hrun := annotate_of_course h
  rw [Source.read] at hrun
  simp only [annotateLog, hopen, hrun]
  cases failure <;> simp

end Symbolizer
