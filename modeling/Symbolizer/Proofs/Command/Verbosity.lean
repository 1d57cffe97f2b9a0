import Symbolizer.Command.Report
import Symbolizer.Proofs.Run.Alike
import Symbolizer.Proofs.Run.Meaning

/-!
# What the verbosity changes

The flags and the filter say which diagnostics are shown, and nothing else. Whatever they are, the
output and the exit code are those of a run straight into the device (`run_eq_annotateFiles`), and
what is shown at one level is what is shown at a higher one without the diagnostics above the lower
(`shown_run_of_le`).
-/

namespace Symbolizer.Command

/-- What the flags ask to be told. -/
inductive Verbosity
  | verbose (count : Nat)
  | quiet
  deriving DecidableEq, Repr

namespace Verbosity

/-- The flags. -/
def flags : Verbosity → List String
  | verbose count => List.replicate count "-v"
  | quiet => ["-q"]

/-- A command line with these flags. Behind two hyphens a path may begin with one. -/
def arguments (v : Verbosity) (listing log : String) : List String :=
  v.flags ++ ["--", listing, log]

/-- The options that it stands for. -/
def options (v : Verbosity) (listing log : String) : Options :=
  match v with
  | verbose count => { verbosity := count, quiet := false, listing, log }
  | quiet => { verbosity := 0, quiet := true, listing, log }

@[simp] theorem listing_options (v : Verbosity) (listing log : String) :
    (v.options listing log).listing = listing := by
  cases v <;> rfl

@[simp] theorem log_options (v : Verbosity) (listing log : String) :
    (v.options listing log).log = log := by
  cases v <;> rfl

end Verbosity

/-! ## Reading the flags -/

namespace Arguments

/-- One hyphen and a letter give a flag. -/
theorem argument_of_ofShort? {text : String} {c : Char} {f : Flag} (htext : text.toList = ['-', c])
    (hc : c ≠ '-') (hf : Flag.ofShort? c = some f) (a : Arguments) :
    a.argument text = a.flag f := by
  rw [argument, htext]
  split
  · next h =>
    cases h
    exact absurd rfl hc
  · next d letters _ h =>
    obtain ⟨rfl, rfl⟩ : d = c ∧ letters = [] := by simpa [eq_comm] using h
    simp only [List.foldlM_cons, List.foldlM_nil, letter, hf]
    cases a.flag f <;> rfl
  · next h => exact absurd rfl (h c [])

theorem read_of_argument {a b : Arguments} {text : String} (hne : text ≠ "--")
    (h : a.argument text = .ok b) (texts : List String) :
    a.read (text :: texts) = b.read texts := by
  rw [Arguments.read, h]
  · rfl
  · exact hne

theorem read_verbose (a : Arguments) (hheld : a.held = none) (texts : List String) :
    a.read ("-v" :: texts) = Arguments.read
      { a with
        flags := a.flags.filter (· ≠ .verbose) ++ [.verbose]
        verbosity := a.verbosity + 1 } texts := by
  obtain ⟨flags, verbosity, settled, held⟩ := a
  obtain rfl : held = none := hheld
  refine read_of_argument (by decide) ?_ texts
  rw [argument_of_ofShort? (by decide) (by decide)
    (show Flag.ofShort? 'v' = some .verbose by decide)]
  rfl

/-- What has been read behind the flags. -/
def ofVerbosity : Verbosity → Arguments
  | .verbose 0 => {}
  | .verbose (count + 1) => { flags := [.verbose], verbosity := count + 1 }
  | .quiet => { flags := [.quiet] }

theorem read_replicate (count before : Nat) (texts : List String) :
    Arguments.read { flags := [.verbose], verbosity := before }
        (List.replicate count "-v" ++ texts) =
      Arguments.read { flags := [.verbose], verbosity := before + count } texts := by
  induction count generalizing before with
  | zero => rfl
  | succ count ih =>
    rw [List.replicate_succ, List.cons_append, read_verbose _ rfl]
    refine (ih (before + 1)).trans ?_
    rw [Nat.add_right_comm, Nat.add_assoc]

theorem read_flags (v : Verbosity) (texts : List String) :
    Arguments.read {} (v.flags ++ texts) = (ofVerbosity v).read texts := by
  match v with
  | .verbose 0 => rfl
  | .verbose (count + 1) =>
    rw [Verbosity.flags, List.replicate_succ, List.cons_append, read_verbose _ rfl]
    refine (read_replicate count 1 texts).trans ?_
    rw [Nat.add_comm]
    rfl
  | .quiet =>
    refine read_of_argument (by decide) ?_ texts
    rw [argument_of_ofShort? (by decide) (by decide)
      (show Flag.ofShort? 'q' = some .quiet by decide)]
    rfl

theorem settle_of_held {a : Arguments} {text : String} (h : a.held = some text) :
    a.settle =
      if text = "" then .error (.complaint (.emptyValue a.place))
      else .ok { a with settled := a.settled ++ [text], held := none } := by
  rw [settle, h]
  split
  · next h => cases h
  · next h =>
    cases h
    rw [if_pos rfl]
  · next hne h =>
    cases h
    rw [if_neg hne]

/-- Another positional argument has the first one looked at. -/
theorem positional_of_held (flags : List Flag) (verbosity : Nat) (first text : String) :
    positional { flags, verbosity, held := some first } text =
      if first = "" then .error (.complaint (.emptyValue .listing))
      else .ok { flags, verbosity, settled := [first], held := some text } := by
  -- There is room for a second one.
  show (settle { flags, verbosity, held := some first } >>= fun a =>
    .ok { a with held := some text }) = _
  rw [settle_of_held rfl]
  split <;> rfl

/-- Two paths behind all flags are settled one after the other. -/
theorem positionals_options (v : Verbosity) (listing log : String) :
    ([listing, log].foldlM positional (ofVerbosity v) >>= options) =
      if listing = "" then .error (.complaint (.emptyValue .listing))
      else if log = "" then .error (.complaint (.emptyValue .log))
      else .ok (v.options listing log) := by
  obtain ⟨flags, verbosity, hv⟩ : ∃ flags verbosity, ofVerbosity v = { flags, verbosity } := by
    match v with
    | .verbose 0 | .verbose (_ + 1) | .quiet => exact ⟨_, _, rfl⟩
  have hfirst : positional { flags, verbosity } listing =
      .ok { flags, verbosity, held := some listing } := rfl
  rw [hv, List.foldlM_cons, hfirst]
  show ([log].foldlM positional { flags, verbosity, held := some listing } >>= options) = _
  rw [List.foldlM_cons, positional_of_held]
  split
  · rfl
  show options { flags, verbosity, settled := [listing], held := some log } = _
  rw [options, settle_of_held rfl]
  split
  · rfl
  cases v with
  | quiet =>
    cases hv
    rfl
  | verbose count =>
    cases count
    all_goals
      cases hv
      rfl

end Arguments

/-- A command line with these flags is accepted unless a path is empty, and of what it complains
then does not depend on the flags. -/
theorem ofArguments_arguments (v : Verbosity) (listing log : String) :
    Options.ofArguments (v.arguments listing log) =
      if listing = "" then .error (.complaint (.emptyValue .listing))
      else if log = "" then .error (.complaint (.emptyValue .log))
      else .ok (v.options listing log) := by
  rw [Options.ofArguments, Verbosity.arguments, Arguments.read_flags, Arguments.read]
  exact Arguments.positionals_options v listing log

/-! ## Levels -/

theorem rank_defaultLevel (verbosity : Nat) (quiet : Bool) :
    (defaultLevel verbosity quiet).rank = if quiet then 0 else min (verbosity + 1) 4 := by
  cases quiet with
  | true => rfl
  | false =>
    match verbosity with
    | 0 | 1 | 2 => rfl
    | n + 3 =>
      show 4 = min (n + 3 + 1) 4
      omega

theorem rank_defaultLevel_le {verbosity verbosity' : Nat} {quiet quiet' : Bool}
    (h : quiet ∨ ¬quiet' ∧ verbosity ≤ verbosity') :
    (defaultLevel verbosity quiet).rank ≤ (defaultLevel verbosity' quiet').rank := by
  rw [rank_defaultLevel, rank_defaultLevel]
  split
  · exact Nat.zero_le _
  · next hquiet =>
    obtain ⟨hquiet', hle⟩ := h.resolve_left hquiet
    rw [if_neg hquiet']
    omega

/-- A filter by a level shows what is no less grave. -/
theorem Filter.shows_ofLevel (level : Level) (x : Diagnostic) :
    (ofLevel level).shows x = decide (x.level.rank ≤ level.rank) := rfl

/-! ## The run -/

/-- The way through the buffers to a device without a limit is as good as the device itself. -/
theorem exists_delivers_buffered {device : Sink} (hlimit : device.limit = none) :
    ∃ R, Receiver.Delivers R ∧ R (buffered device) device := by
  have hwrite : device = (device.write "").1 := by rw [Sink.write_empty]
  refine ⟨_, Buffered.delivers_ahead (Buffered.delivers_ahead Sink.delivers_self), ?_⟩
  exact ⟨device, ⟨device, ⟨rfl, hlimit⟩, hwrite⟩, hwrite⟩

/-- Through the buffers a run comes to the same as straight into the device. -/
theorem outcome_buffered {device : Sink} (hlimit : device.limit = none) (files : Files)
    (listing log : String) :
    (annotateFiles files listing log (buffered device)).result =
        (annotateFiles files listing log device).result ∧
      Receiver.taken (Receiver.flush
          (annotateFiles files listing log (buffered device)).receiver).1 =
        (annotateFiles files listing log device).receiver.taken := by
  obtain ⟨R, hdelivers, hrel⟩ := exists_delivers_buffered hlimit
  obtain ⟨hresult, hrel'⟩ := hdelivers.annotateFiles_eq_of_rel hrel
  exact ⟨hresult, hdelivers.taken_flush hrel'⟩

/-- What an accepted command line makes the program do is a run straight into the device. -/
theorem run_eq_annotateFiles {arguments : List String} {options : Options}
    (h : Options.ofArguments arguments = .ok options) (files : Files) (filterText : Option String)
    {device : Sink} (hlimit : device.limit = none) :
    (run files arguments filterText device).output =
        (annotateFiles files options.listing options.log device).receiver.taken ∧
      (run files arguments filterText device).exitCode =
        (annotateFiles files options.listing options.log device).exitCode ∧
      (run files arguments filterText device).closing =
        Report.closingOf (annotateFiles files options.listing options.log device).result := by
  obtain ⟨hresult, htaken⟩ := outcome_buffered hlimit files options.listing options.log
  rw [run_of_accepted h, Report.ofOutcome_eq, Outcome.exitCode, Outcome.exitCode, hresult]
  exact ⟨htaken, rfl, rfl⟩

/-- Command lines that differ in their flags only lead to the same, accepted or not. -/
theorem run_arguments_eq (files : Files) {device : Sink} (hlimit : device.limit = none)
    (v v' : Verbosity) (filterText filterText' : Option String) (listing log : String) :
    (run files (v.arguments listing log) filterText device).output =
        (run files (v'.arguments listing log) filterText' device).output ∧
      (run files (v.arguments listing log) filterText device).exitCode =
        (run files (v'.arguments listing log) filterText' device).exitCode := by
  have h := ofArguments_arguments v listing log
  have h' := ofArguments_arguments v' listing log
  split at h
  · next hempty =>
    rw [if_pos hempty] at h'
    simp only [run, h, h', and_self]
  · next hlisting =>
    rw [if_neg hlisting] at h'
    split at h
    · next hempty =>
      rw [if_pos hempty] at h'
      simp only [run, h, h', and_self]
    · next hlog =>
      rw [if_neg hlog] at h'
      obtain ⟨houtput, hcode, -⟩ := run_eq_annotateFiles h files filterText hlimit
      obtain ⟨houtput', hcode', -⟩ := run_eq_annotateFiles h' files filterText' hlimit
      rw [houtput, hcode, houtput', hcode']
      simp only [Verbosity.listing_options, Verbosity.log_options, and_self]

/-- Where the user has set no filter, a lower level shows of what a higher one shows the diagnostics
up to that level. -/
theorem shown_run_of_le {arguments arguments' : List String} {options options' : Options}
    (h : Options.ofArguments arguments = .ok options)
    (h' : Options.ofArguments arguments' = .ok options')
    (hlisting : options.listing = options'.listing) (hlog : options.log = options'.log)
    (hle : options.quiet ∨ ¬options'.quiet ∧ options.verbosity ≤ options'.verbosity)
    (files : Files) (device : Sink) :
    (run files arguments none device).shown =
      (run files arguments' none device).shown.filter fun x =>
        x.level.rank ≤ (defaultLevel options.verbosity options.quiet).rank := by
  have hrank := rank_defaultLevel_le hle
  rw [run_of_accepted h, run_of_accepted h', Report.ofOutcome_eq, Report.ofOutcome_eq, hlisting,
    hlog, List.filter_filter]
  refine List.filter_congr fun x _ => ?_
  rw [show Filter.choose none options.verbosity options.quiet =
      .ofLevel (defaultLevel options.verbosity options.quiet) from rfl,
    show Filter.choose none options'.verbosity options'.quiet =
      .ofLevel (defaultLevel options'.verbosity options'.quiet) from rfl,
    Filter.shows_ofLevel, Filter.shows_ofLevel, ← Bool.decide_and, decide_eq_decide]
  omega

/-- The verbosity has no influence on a run into a device that takes everything. Command lines that
differ in their flags only lead to the same output and exit code, whatever filters the user has set,
and are accepted unless a path is empty. Of any command line that is accepted the output, the exit
code and the last words to the user are those of a run straight into the device. Where the user has
set no filter, what is shown at a lower level is what is shown at a higher one without the
diagnostics above the lower. -/
theorem run_verbosity_irrelevant (files : Files) {device : Sink} (hlimit : device.limit = none) :
    (∀ (v v' : Verbosity) (filterText filterText' : Option String) (listing log : String),
      (run files (v.arguments listing log) filterText device).output =
          (run files (v'.arguments listing log) filterText' device).output ∧
        (run files (v.arguments listing log) filterText device).exitCode =
          (run files (v'.arguments listing log) filterText' device).exitCode) ∧
    (∀ (v : Verbosity) (listing log : String), listing ≠ "" → log ≠ "" →
      Options.ofArguments (v.arguments listing log) = .ok (v.options listing log)) ∧
    (∀ arguments options filterText, Options.ofArguments arguments = .ok options →
      (run files arguments filterText device).output =
          (annotateFiles files options.listing options.log device).receiver.taken ∧
        (run files arguments filterText device).exitCode =
          (annotateFiles files options.listing options.log device).exitCode ∧
        (run files arguments filterText device).closing =
          Report.closingOf (annotateFiles files options.listing options.log device).result) ∧
    ∀ arguments arguments' options options', Options.ofArguments arguments = .ok options →
      Options.ofArguments arguments' = .ok options' → options.listing = options'.listing →
      options.log = options'.log →
      options.quiet ∨ ¬options'.quiet ∧ options.verbosity ≤ options'.verbosity →
      (run files arguments none device).shown =
        (run files arguments' none device).shown.filter fun x =>
          x.level.rank ≤ (defaultLevel options.verbosity options.quiet).rank := by
  refine ⟨run_arguments_eq files hlimit, fun v listing log hlisting hlog => ?_,
    fun arguments options filterText h => run_eq_annotateFiles h files filterText hlimit,
    fun arguments arguments' options options' h h' hlisting hlog hle =>
      shown_run_of_le h h' hlisting hlog hle files device⟩
  rw [ofArguments_arguments, if_neg hlisting, if_neg hlog]

/-- Of the sample files a run that shows all, and one that shows errors by the user's filter, write
the same. With `-v` the counts of the run are shown, of which `-vv` shows more. -/
theorem run_verbosity_irrelevant_sampleFiles :
    (run sampleFiles ["-vvv", "listing", "log"] (some "error") ({} : Sink)).output =
        (annotateFiles sampleFiles "listing" "log" ({} : Sink)).receiver.taken ∧
      (run sampleFiles ["-vvv", "listing", "log"] (some "error") ({} : Sink)).output =
        (run sampleFiles ["listing", "-q", "log"] none ({} : Sink)).output ∧
      (run sampleFiles ["-v", "listing", "log"] none ({} : Sink)).shown =
        (run sampleFiles ["listing", "log", "--verbose", "-v"] none ({} : Sink)).shown.filter
          (·.level.rank ≤ 2) := by
  obtain ⟨-, -, hrun, hshown⟩ :=
    run_verbosity_irrelevant sampleFiles (show ({} : Sink).limit = none from rfl)
  have hall : Options.ofArguments ["-vvv", "listing", "log"] =
      .ok ⟨3, false, "listing", "log"⟩ := by
    decide
  have hquiet : Options.ofArguments ["listing", "-q", "log"] = .ok ⟨0, true, "listing", "log"⟩ := by
    decide
  have hinfo : Options.ofArguments ["-v", "listing", "log"] = .ok ⟨1, false, "listing", "log"⟩ := by
    decide
  have hdebug : Options.ofArguments ["listing", "log", "--verbose", "-v"] =
      .ok ⟨2, false, "listing", "log"⟩ := by
    decide
  obtain ⟨houtput, -⟩ := hrun _ _ (some "error") hall
  obtain ⟨houtput', -⟩ := hrun _ _ none hquiet
  exact ⟨houtput, houtput.trans houtput'.symm,
    hshown _ _ _ _ hinfo hdebug rfl rfl (.inr ⟨by decide, by decide⟩)⟩

/-- With an empty path for the log, the program does not come to the failure that a run ends
with. -/
theorem exitCode_run_emptyLogPath :
    (run brokenFiles ["listing", ""] none ({} : Sink)).exitCode = 2 ∧
      (annotateFiles brokenFiles "listing" "" ({} : Sink)).exitCode = 1 := by
  have hrefused : Options.ofArguments ["listing", ""] = .error (.complaint (.emptyValue .log)) := by
    decide
  have hends : Ends brokenFiles "listing" "" ({} : Sink) (.error (.cannotOpen "" .noSuchFile)) {} :=
    .logShut loads_brokenFiles rfl
  constructor
  · simp only [run, hrefused, Report.ofEnding]
  · rw [Outcome.exitCode, hends.outcome_eq.1]
    rfl

end Symbolizer.Command
