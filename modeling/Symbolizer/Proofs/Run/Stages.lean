import Symbolizer.Command.Report
import Symbolizer.Proofs.Run.Course

/-!
# Which failure ends a run

A run goes through stages: the listing is opened, read to its end and searched for headers, the log
is opened, its lines are taken up, and the receiver is flushed. `Listing.Loads` and `Ends` give the
outcomes stage by stage, each for the case that all stages before it went well. They are all the
outcomes there are, and a run has the one that applies (`ends_iff`): it ends at the first stage that
fails, and leaves the receiver alone until its log has been opened.

The exit code of the program tells a listing without headers from the other failures.
`annotateFiles_first_failure` puts this together.
-/

namespace Symbolizer

/-! ## The listing -/

namespace Listing

/-- What the listing at `path` gives: a table, or the failure of the first of its stages that
fails. -/
inductive Loads (files : Files) (path : String) : Except Failure SymbolTable → Prop
  | shut {fault : Fault} (hopen : files path = .error fault) :
      Loads files path (.error (.cannotOpen path fault))
  /-- Whatever has been read before the fault. -/
  | broken {source : Source} {lines : List String} {fault : Fault}
      {behind : List (Except Fault String)} (hopen : files path = .ok source)
      (hitems : source.items = lines.map .ok ++ .error fault :: behind) :
      Loads files path (.error (.cannotRead path fault))
  | noHeaders {source : Source} {lines : List String} (hopen : files path = .ok source)
      (hitems : source.items = lines.map .ok)
      (hnone : ∀ line ∈ lines, ∀ a n, ¬ Announces line a n) :
      Loads files path (.error (.noHeaders path))
  | table {source : Source} {lines : List String} (hopen : files path = .ok source)
      (hitems : source.items = lines.map .ok)
      (hannounces : ∃ line ∈ lines, ∃ a n, Announces line a n) :
      Loads files path (.ok (.ofLines lines))

theorem untilError_append {ε α : Type} (as : List α) (e : ε) (behind : List (Except ε α)) :
    untilError (as.map .ok ++ .error e :: behind) = (as, some e) := by
  induction as with
  | nil => rfl
  | cons a as ih => rw [List.map_cons, List.cons_append, untilError_ok, ih]

/-- Either no item is an error, or there is a first one that is. -/
theorem exists_items_eq {ε α : Type} (items : List (Except ε α)) :
    ∃ as : List α, items = as.map .ok ∨ ∃ e behind, items = as.map .ok ++ .error e :: behind := by
  induction items with
  | nil => exact ⟨[], .inl rfl⟩
  | cons item items ih =>
    cases item with
    | error e => exact ⟨[], .inr ⟨e, items, rfl⟩⟩
    | ok a =>
      obtain ⟨as, rfl | ⟨e, behind, rfl⟩⟩ := ih
      · exact ⟨a :: as, .inl rfl⟩
      · exact ⟨a :: as, .inr ⟨e, behind, rfl⟩⟩

theorem Loads.fst_load_eq {files : Files} {path : String} {result : Except Failure SymbolTable}
    (h : Loads files path result) : (load files path).1 = result := by
  cases h with
  | shut hopen => simp only [load, hopen]
  | broken hopen hitems => simp only [load, hopen, hitems, untilError_append]
  | noHeaders hopen hitems hnone =>
    rw [load_of_items hopen hitems, ofAllLines_of_forall path hnone]
  | table hopen hitems hannounces =>
    obtain ⟨lowest, -, htable⟩ := ofAllLines_of_exists path hannounces
    rw [load_of_items hopen hitems, htable]

theorem Loads.exists_load_eq {files : Files} {path : String}
    {result : Except Failure SymbolTable} (h : Loads files path result) :
    ∃ told, load files path = (result, told) :=
  ⟨(load files path).2, Prod.ext h.fst_load_eq rfl⟩

/-- A listing always gives something. -/
theorem exists_loads (files : Files) (path : String) : ∃ result, Loads files path result := by
  cases hopen : files path with
  | error fault => exact ⟨_, .shut hopen⟩
  | ok source =>
    obtain ⟨lines, hitems | ⟨fault, behind, hitems⟩⟩ := exists_items_eq source.items
    · by_cases hannounces : ∃ line ∈ lines, ∃ a n, Announces line a n
      · exact ⟨_, .table hopen hitems hannounces⟩
      · simp only [not_exists, not_and] at hannounces
        exact ⟨_, .noHeaders hopen hitems hannounces⟩
    · exact ⟨_, .broken hopen hitems⟩

theorem loads_iff {files : Files} {path : String} {result : Except Failure SymbolTable} :
    Loads files path result ↔ (load files path).1 = result := by
  refine ⟨Loads.fst_load_eq, ?_⟩
  rintro rfl
  obtain ⟨result, h⟩ := exists_loads files path
  rwa [h.fst_load_eq]

/-- What a listing gives depends on what opening it gives only. -/
theorem Loads.congr {files files' : Files} {path : String} {result : Except Failure SymbolTable}
    (hfiles : files' path = files path) (h : Loads files path result) :
    Loads files' path result := by
  rw [loads_iff] at h ⊢
  rwa [load, hfiles]

end Listing

/-! ## The whole run -/

variable {σ : Type} [Receiver σ] {r r' : σ} {files : Files} {listing log : String}
  {result : Except Failure Tally}

/-- What a run comes to, and what the receiver `r` is then: the counts, or the failure of the first
stage that fails. -/
inductive Ends (files : Files) (listing log : String) (r : σ) : Except Failure Tally → σ → Prop
  /-- Nothing has been asked of the receiver. -/
  | listing {failure : Failure} (hlisting : Listing.Loads files listing (.error failure)) :
      Ends files listing log r (.error failure) r
  /-- Nothing has been asked of the receiver. -/
  | logShut {table : SymbolTable} {fault : Fault}
      (hlisting : Listing.Loads files listing (.ok table)) (hopen : files log = .error fault) :
      Ends files listing log r (.error (.cannotOpen log fault)) r
  /-- A line that is not there or is refused, whichever comes first. -/
  | log {table : SymbolTable} {source : Source} {lines : List String} {r' : σ} {failure : Failure}
      (hlisting : Listing.Loads files listing (.ok table)) (hopen : files log = .ok source)
      (hcourse : Course table r (source.read log) lines r' (some failure)) :
      Ends files listing log r (.error failure) r'
  | flush {table : SymbolTable} {source : Source} {lines : List String} {r₁ r' : σ} {fault : Fault}
      (hlisting : Listing.Loads files listing (.ok table)) (hopen : files log = .ok source)
      (hcourse : Course table r (source.read log) lines r₁ none)
      (hflush : Receiver.flush r₁ = (r', some fault)) :
      Ends files listing log r (.error (.cannotFlush fault)) r'
  | done {table : SymbolTable} {source : Source} {lines : List String} {r₁ r' : σ}
      (hlisting : Listing.Loads files listing (.ok table)) (hopen : files log = .ok source)
      (hcourse : Course table r (source.read log) lines r₁ none)
      (hflush : Receiver.flush r₁ = (r', none)) :
      Ends files listing log r (.ok (Progress.countAll table {} lines)) r'

/-- A listing that gives no table is the end of a run. -/
theorem annotateFiles_of_load_error {failure : Failure} {told : List Diagnostic} (log : String)
    (r : σ) (hload : Listing.load files listing = (.error failure, told)) :
    annotateFiles files listing log r =
      { result := .error failure, diagnostics := told, receiver := r } := by
  simp only [annotateFiles, hload]

/-- A log that fails is the end of a run. -/
theorem annotateFiles_of_log_error {table : SymbolTable} {failure : Failure}
    {told : List Diagnostic} (hload : Listing.load files listing = (.ok table, told))
    (hlog : (annotateLog table files log r).result = .error failure) :
    (annotateFiles files listing log r).result = .error failure ∧
      (annotateFiles files listing log r).receiver = (annotateLog table files log r).receiver := by
  simp [annotateFiles, hload, hlog]

theorem Ends.outcome_eq (h : Ends files listing log r result r') :
    (annotateFiles files listing log r).result = result ∧
      (annotateFiles files listing log r).receiver = r' := by
  cases h with
  | listing hlisting =>
    obtain ⟨told, hload⟩ := hlisting.exists_load_eq
    rw [annotateFiles_of_load_error log r hload]
    exact ⟨rfl, rfl⟩
  | @logShut table fault hlisting hopen =>
    obtain ⟨told, hload⟩ := hlisting.exists_load_eq
    have hlog := annotateLog_of_shut hopen table r
    obtain ⟨hresult, hreceiver⟩ := annotateFiles_of_log_error hload (congrArg Outcome.result hlog)
    exact ⟨hresult, hreceiver.trans (congrArg Outcome.receiver hlog)⟩
  | log hlisting hopen hcourse =>
    obtain ⟨told, hload⟩ := hlisting.exists_load_eq
    have hlog := annotateLog_of_course hopen hcourse
    obtain ⟨hresult, hreceiver⟩ := annotateFiles_of_log_error hload (congrArg Outcome.result hlog)
    exact ⟨hresult, hreceiver.trans (congrArg Outcome.receiver hlog)⟩
  | flush hlisting hopen hcourse hflush =>
    obtain ⟨told, hload⟩ := hlisting.exists_load_eq
    have hlog := annotateLog_of_course hopen hcourse
    obtain ⟨hresult, hreceiver⟩ := annotateFiles_of_ok hload (congrArg Outcome.result hlog)
    rw [hresult, hreceiver, hlog, hflush]
    exact ⟨rfl, rfl⟩
  | done hlisting hopen hcourse hflush =>
    obtain ⟨told, hload⟩ := hlisting.exists_load_eq
    have hlog := annotateLog_of_course hopen hcourse
    obtain ⟨hresult, hreceiver⟩ := annotateFiles_of_ok hload (congrArg Outcome.result hlog)
    rw [hresult, hreceiver, hlog, hflush]
    exact ⟨rfl, rfl⟩

/-- A run always comes to something. -/
theorem exists_ends (files : Files) (listing log : String) (r : σ) :
    ∃ result r', Ends files listing log r result r' := by
  obtain ⟨loaded, hlisting⟩ := Listing.exists_loads files listing
  cases loaded with
  | error failure => exact ⟨_, _, .listing hlisting⟩
  | ok table =>
    cases hopen : files log with
    | error fault => exact ⟨_, _, .logShut hlisting hopen⟩
    | ok source =>
      obtain ⟨lines, r₁, failure, hcourse⟩ := exists_course table r (source.read log)
      cases failure with
      | some failure => exact ⟨_, _, .log hlisting hopen hcourse⟩
      | none =>
        rcases hflush : Receiver.flush r₁ with ⟨r', _ | fault⟩
        · exact ⟨_, _, .done hlisting hopen hcourse hflush⟩
        · exact ⟨_, _, .flush hlisting hopen hcourse hflush⟩

theorem ends_iff :
    Ends files listing log r result r' ↔
      (annotateFiles files listing log r).result = result ∧
        (annotateFiles files listing log r).receiver = r' := by
  refine ⟨Ends.outcome_eq, ?_⟩
  rintro ⟨rfl, rfl⟩
  obtain ⟨result, r', h⟩ := exists_ends files listing log r
  obtain ⟨hresult, hreceiver⟩ := h.outcome_eq
  rwa [hresult, hreceiver]

/-- A log fails at reading a line or at writing one. -/
theorem Course.failure_cases {table : SymbolTable} {source : Source} {path : String}
    {lines : List String} {failure : Failure}
    (h : Course table r (source.read path) lines r' (some failure)) :
    (∃ fault, failure = .cannotRead path fault) ∨ ∃ fault, failure = .cannotWrite fault := by
  cases h with
  | @unread _ _ failure behind hitems hwrite =>
    have hmem : Except.error failure ∈ source.read path := hitems ▸ by simp
    obtain ⟨item, -, hitem⟩ := List.mem_map.1 hmem
    cases item with
    | error fault => exact .inl ⟨fault, (Except.error.inj hitem).symm⟩
    | ok line => cases hitem
  | refused => exact .inr ⟨_, rfl⟩

/-- A run fails for want of headers exactly if its listing does. -/
theorem result_eq_noHeaders_iff :
    (∃ path, (annotateFiles files listing log r).result = .error (.noHeaders path)) ↔
      Listing.Loads files listing (.error (.noHeaders listing)) := by
  constructor
  · rintro ⟨path, hresult⟩
    obtain ⟨r', hends⟩ : ∃ r', Ends files listing log r (.error (.noHeaders path)) r' :=
      ⟨_, ends_iff.2 ⟨hresult, rfl⟩⟩
    cases hends with
    | listing hlisting =>
      cases id hlisting with
      | noHeaders hopen hitems hnone => exact hlisting
    | log hlisting hopen hcourse =>
      rcases hcourse.failure_cases with ⟨fault, h⟩ | ⟨fault, h⟩
      all_goals cases h
  · intro hlisting
    have hends : Ends files listing log r (.error (.noHeaders listing)) r := .listing hlisting
    exact ⟨listing, hends.outcome_eq.1⟩

/-! ## The exit code -/

namespace Outcome

variable {τ : Type} {o : Outcome τ}

/-- The exit code that an outcome calls for. -/
def exitCode (o : Outcome τ) : Nat :=
  match o.result with
  | .ok _ => 0
  | .error failure => failure.exitCode

theorem exitCode_eq_zero_iff : o.exitCode = 0 ↔ ∃ tally, o.result = .ok tally := by
  rw [exitCode]
  rcases o.result with failure | tally
  · cases failure <;> simp [Failure.exitCode]
  · simp

theorem exitCode_eq_two_iff : o.exitCode = 2 ↔ ∃ path, o.result = .error (.noHeaders path) := by
  rw [exitCode]
  rcases o.result with failure | tally
  · cases failure <;> simp [Failure.exitCode]
  · simp

theorem exitCode_le_two : o.exitCode ≤ 2 := by
  rw [exitCode]
  rcases o.result with failure | tally
  · cases failure <;> simp [Failure.exitCode]
  · simp

end Outcome

namespace Command

namespace Report

/-- What the user is told of a result at the end. -/
def closingOf : Except Failure Tally → String
  | .ok _ => ""
  | .error failure => failureLine failure

theorem ofOutcome_eq (filter : Filter) (o : Outcome σ) :
    ofOutcome filter o = {
      exitCode := o.exitCode
      output := Receiver.taken (Receiver.flush o.receiver).1
      shown := o.diagnostics.filter filter.shows
      closing := closingOf o.result } := by
  rw [ofOutcome, Outcome.exitCode]
  cases o.result <;> rfl

end Report

/-- The run that an accepted command line asks for. -/
theorem run_of_accepted {arguments : List String} {options : Options}
    (h : Options.ofArguments arguments = .ok options) (files : Files)
    (filterText : Option String) (device : σ) :
    run files arguments filterText device =
      .ofOutcome (.choose filterText options.verbosity options.quiet)
        (annotateFiles files options.listing options.log (buffered device)) := by
  simp only [run, h]

/-- The program exits with 2 exactly for want of headers, and with 0 exactly if no stage fails. -/
theorem exitCode_run_cases {arguments : List String} {options : Options}
    (h : Options.ofArguments arguments = .ok options) (files : Files)
    (filterText : Option String) (device : σ) :
    ((run files arguments filterText device).exitCode = 2 ↔
        Listing.Loads files options.listing (.error (.noHeaders options.listing))) ∧
      ((run files arguments filterText device).exitCode = 0 ↔
        ∃ tally r', Ends files options.listing options.log (buffered device) (.ok tally) r') ∧
      (run files arguments filterText device).exitCode ≤ 2 := by
  rw [run_of_accepted h, Report.ofOutcome_eq]
  refine ⟨Outcome.exitCode_eq_two_iff.trans result_eq_noHeaders_iff, ?_, Outcome.exitCode_le_two⟩
  rw [Outcome.exitCode_eq_zero_iff]
  constructor
  · rintro ⟨tally, hresult⟩
    exact ⟨tally, _, ends_iff.2 ⟨hresult, rfl⟩⟩
  · rintro ⟨tally, r', hends⟩
    exact ⟨tally, hends.outcome_eq.1⟩

end Command

/-! ## The order of failures -/

open Attribution (texts)

/-- A run whose log is never opened leaves its receiver alone. -/
theorem Ends.receiver_eq_of_not_open (h : Ends files listing log r result r')
    (hnot : ∀ table source, Listing.Loads files listing (.ok table) → files log ≠ .ok source) :
    r' = r := by
  cases h with
  | listing | logShut => rfl
  | log hlisting hopen => exact absurd hopen (hnot _ _ hlisting)
  | flush hlisting hopen => exact absurd hopen (hnot _ _ hlisting)
  | done hlisting hopen => exact absurd hopen (hnot _ _ hlisting)

/-- A receiver is flushed once at most, and only behind a log that was taken up to its end. -/
theorem Ends.receiver_cases (h : Ends files listing log r result r') :
    (∃ texts, r' = (Receiver.writeAll r texts).1) ∨
      ∃ table source lines r₁, Listing.Loads files listing (.ok table) ∧ files log = .ok source ∧
        Course table r (source.read log) lines r₁ none ∧ r' = (Receiver.flush r₁).1 := by
  cases h with
  | listing | logShut => exact .inl ⟨[], rfl⟩
  | log _ _ hcourse => exact .inl ⟨_, hcourse.receiver_eq⟩
  | flush hlisting hopen hcourse hflush =>
    exact .inr ⟨_, _, _, _, hlisting, hopen, hcourse, congrArg Prod.fst hflush.symm⟩
  | done hlisting hopen hcourse hflush =>
    exact .inr ⟨_, _, _, _, hlisting, hopen, hcourse, congrArg Prod.fst hflush.symm⟩

/-- A run comes to what `Ends` says: it ends at the first of its stages that fails. Its receiver is
asked for nothing until the log has been opened, and is flushed only behind all lines of it. Whether
the listing fails, and how, has to do with neither the log nor the receiver. The exit code of the
program is 2 for a listing without headers, 0 if no stage fails, and 1 otherwise. -/
theorem annotateFiles_first_failure (files : Files) (listing log : String) (r : σ) :
    (∀ result r', Ends files listing log r result r' ↔
      (annotateFiles files listing log r).result = result ∧
        (annotateFiles files listing log r).receiver = r') ∧
    ((∀ table source, Listing.Loads files listing (.ok table) → files log ≠ .ok source) →
      (annotateFiles files listing log r).receiver = r) ∧
    ((∃ texts, (annotateFiles files listing log r).receiver = (Receiver.writeAll r texts).1) ∨
      ∃ table source lines r₁, Listing.Loads files listing (.ok table) ∧ files log = .ok source ∧
        Course table r (source.read log) lines r₁ none ∧
        (annotateFiles files listing log r).receiver = (Receiver.flush r₁).1) ∧
    (∀ failure, Listing.Loads files listing (.error failure) →
      ∀ (files' : Files) (log' : String) (τ : Type) [Receiver τ] (q : τ),
        files' listing = files listing →
        (annotateFiles files' listing log' q).result = .error failure ∧
          (annotateFiles files' listing log' q).receiver = q) ∧
    ∀ arguments options filterText, Command.Options.ofArguments arguments = .ok options →
      options.listing = listing → options.log = log →
      ((Command.run files arguments filterText r).exitCode = 2 ↔
          Listing.Loads files listing (.error (.noHeaders listing))) ∧
        ((Command.run files arguments filterText r).exitCode = 0 ↔
          ∃ tally r', Ends files listing log (Command.buffered r) (.ok tally) r') ∧
        (Command.run files arguments filterText r).exitCode ≤ 2 := by
  obtain ⟨result, r', hends⟩ := exists_ends files listing log r
  obtain ⟨-, hreceiver⟩ := hends.outcome_eq
  refine ⟨fun _ _ => ends_iff, fun hnot => ?_, ?_, ?_, ?_⟩
  · exact hreceiver.trans (hends.receiver_eq_of_not_open hnot)
  · exact hreceiver ▸ hends.receiver_cases
  · intro failure hlisting files' log' τ _ q hfiles
    exact Ends.outcome_eq (.listing (hlisting.congr hfiles))
  · rintro arguments options filterText harguments rfl rfl
    exact Command.exitCode_run_cases harguments files filterText r

/-- A file that can be read as the given text, and no further. -/
def brokenFile (text : String) : Source :=
  .file { script := [.chunk text.toUTF8.data.toList, .fault { kind := .other }] }

/-- A block line; its block starts where the listing announces a function. -/
def brokenLine : String := "[t INFO rv_emu::cpu] Block execution: 0x10 to 0x20"

/-- A listing without headers, and a listing and a log that break off behind one line. -/
def brokenFiles : Files
  | "listing" => .ok (.ofBytes "10 <f>:\n".toUTF8.data.toList)
  | "bare listing" => .ok (.ofBytes "10 f:\n".toUTF8.data.toList)
  | "broken listing" => .ok (brokenFile "10 <f>:\n")
  | "broken log" => .ok (brokenFile (brokenLine ++ "\n"))
  | _ => .error .noSuchFile

theorem loads_brokenFiles : Listing.Loads brokenFiles "listing" (.ok (.ofLines ["10 <f>:"])) := by
  have hitems : (Source.ofBytes "10 <f>:\n".toUTF8.data.toList).items = ["10 <f>:"].map .ok :=
    Reader.items_of_firstAnswers (by decide)
  have hheader : Announces "10 <f>:" 0x10 "f" :=
    Header.parse?_eq_some_iff (h := ⟨0x10, "f"⟩).1 (by decide)
  exact .table rfl hitems ⟨_, List.mem_singleton_self _, _, _, hheader⟩

theorem read_brokenFile_brokenLine :
    (brokenFile (brokenLine ++ "\n")).read "broken log" =
      [brokenLine].map .ok ++ .error (.cannotRead "broken log" { kind := .other }) :: [] := by
  have hitems : (brokenFile (brokenLine ++ "\n")).items =
      [.ok brokenLine, .error { kind := .other }] :=
    Reader.items_of_firstAnswers (by decide +kernel)
  rw [Source.read, hitems]
  rfl

/-- With the log missing, a listing that breaks off behind a header fails for that, and one without
headers for want of them; a good one leaves it to the log. Where a log breaks off behind a block
line, it matters whether the line was refused. -/
theorem annotateFiles_first_failure_brokenFiles :
    (annotateFiles brokenFiles "broken listing" "log" ({} : Sink)).result =
        .error (.cannotRead "broken listing" { kind := .other }) ∧
      (annotateFiles brokenFiles "listing" "log" ({} : Sink)).result =
        .error (.cannotOpen "log" .noSuchFile) ∧
      (annotateFiles brokenFiles "listing" "broken log" ({} : Sink)).result =
        .error (.cannotRead "broken log" { kind := .other }) ∧
      (annotateFiles brokenFiles "listing" "broken log" { limit := some 1 : Sink }).result =
        .error (.cannotWrite { kind := .incompleteWrite }) ∧
      (Command.run brokenFiles ["bare listing", "log"] none ({} : Sink)).exitCode = 2 := by
  refine ⟨?_, ?_, ?_, ?_, ?_⟩
  · obtain ⟨hends, -⟩ :=
      annotateFiles_first_failure brokenFiles "broken listing" "log" ({} : Sink)
    have hitems : (brokenFile "10 <f>:\n").items =
        ["10 <f>:"].map .ok ++ .error { kind := .other } :: [] :=
      Reader.items_of_firstAnswers (by decide)
    exact ((hends _ _).1 (.listing (.broken rfl hitems))).1
  · obtain ⟨hends, -⟩ := annotateFiles_first_failure brokenFiles "listing" "log" ({} : Sink)
    exact ((hends _ _).1 (.logShut loads_brokenFiles rfl)).1
  · obtain ⟨hends, -⟩ := annotateFiles_first_failure brokenFiles "listing" "broken log" ({} : Sink)
    have hwrite : Receiver.writeAll ({} : Sink) (texts (.ofLines ["10 <f>:"]) [brokenLine]) =
        (_, none) :=
      (Sink.writeAll_eq_write_join _ _).trans (Sink.write_of_limit_eq_none rfl _)
    have hcourse := Course.unread read_brokenFile_brokenLine hwrite
    exact ((hends _ _).1 (.log loads_brokenFiles rfl hcourse)).1
  · obtain ⟨hends, -⟩ :=
      annotateFiles_first_failure brokenFiles "listing" "broken log" { limit := some 1 : Sink }
    have hnil : Receiver.writeAll { limit := some 1 : Sink }
        (texts (.ofLines ["10 <f>:"]) []) = ({ limit := some 1 }, none) := rfl
    have hrefused : Receiver.writeAll { limit := some 1 : Sink }
        (texts (.ofLines ["10 <f>:"]) [brokenLine]) = (_, some { kind := .incompleteWrite }) :=
      Prod.ext rfl (by decide +kernel)
    have hread : (brokenFile (brokenLine ++ "\n")).read "broken log" =
        [].map .ok ++ .ok brokenLine :: _ := read_brokenFile_brokenLine
    have hcourse := Course.refused hread hnil hrefused
    exact ((hends _ _).1 (.log loads_brokenFiles rfl hcourse)).1
  · obtain ⟨-, -, -, -, hcode⟩ :=
      annotateFiles_first_failure brokenFiles "bare listing" "log" ({} : Sink)
    obtain ⟨htwo, -⟩ := hcode ["bare listing", "log"] ⟨0, false, "bare listing", "log"⟩ none
      (by decide) rfl rfl
    have hitems : (Source.ofBytes "10 f:\n".toUTF8.data.toList).items = ["10 f:"].map .ok :=
      Reader.items_of_firstAnswers (by decide)
    have hnone : ∀ line ∈ ["10 f:"], ∀ a n, ¬ Announces line a n :=
      forall_mem_headers_iff (p := fun _ => False).1 (by decide)
    exact htwo.2 (.noHeaders rfl hitems hnone)

end Symbolizer
