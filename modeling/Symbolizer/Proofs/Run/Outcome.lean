import Symbolizer.Device
import Symbolizer.Proofs.Run.Writing

/-!
# How a run ends

A run meets two sources of faults, the lines that it is given and the receiver that it writes to,
and ends at the first fault of either. Behind it nothing matters (`annotate_append_of_error`).

What a run does to a receiver it does to every view of it that keeps writes
(`Receiver.KeepsWrites`). A device is a sink in such a view, so what is known of runs into a sink
holds of a device, which takes a text in pieces and may refuse in the middle of one
(`annotate_device`).
-/

namespace Symbolizer

variable {σ τ : Type} [Receiver σ] [Receiver τ]

/-! ## Views of a receiver -/

/-- A view in which a write is the same write. -/
def Receiver.KeepsWrites (view : σ → τ) : Prop :=
  ∀ s text, write (view s) text = (view (write s text).1, (write s text).2)

/-- A run under way, its receiver in a view. -/
def Progress.view (view : σ → τ) (p : Progress σ) : Progress τ where
  tally := p.tally
  diagnostics := p.diagnostics
  receiver := view p.receiver

namespace Receiver.KeepsWrites

variable {view : σ → τ}

theorem writeAll_view (h : KeepsWrites view) (s : σ) (texts : List String) :
    Receiver.writeAll (view s) texts =
      (view (Receiver.writeAll s texts).1, (Receiver.writeAll s texts).2) := by
  induction texts generalizing s with
  | nil => rfl
  | cons text texts ih =>
    rw [Receiver.writeAll, Receiver.writeAll, h]
    rcases write s text with ⟨s, _ | fault⟩
    · exact ih s
    · rfl

theorem line_view (h : KeepsWrites view) (t : SymbolTable) (p : Progress σ) (text : String) :
    (p.view view).line t text = ((p.line t text).1.view view, (p.line t text).2) := by
  rw [Progress.line, Progress.line]
  cases Attribution.ofLine? t text with
  | none => rfl
  | some a => simp only [Progress.view, h.writeAll_view]

theorem lines_view (h : KeepsWrites view) (t : SymbolTable) (p : Progress σ)
    (items : List (Except Failure String)) :
    (p.view view).lines t items = ((p.lines t items).1.view view, (p.lines t items).2) := by
  induction items generalizing p with
  | nil => rfl
  | cons item items ih =>
    cases item with
    | error failure => rfl
    | ok text =>
      rw [Progress.lines, Progress.lines, h.line_view]
      rcases p.line t text with ⟨p, _ | fault⟩
      · exact ih p
      · rfl

/-- A run into a view is the same run. -/
theorem annotate_view (h : KeepsWrites view) (t : SymbolTable)
    (items : List (Except Failure String)) (s : σ) :
    (annotate t items (view s)).result = (annotate t items s).result ∧
      (annotate t items (view s)).receiver = view (annotate t items s).receiver := by
  have hlines := h.lines_view t { receiver := s } items
  rw [show ({ receiver := s } : Progress σ).view view = { receiver := view s } from rfl] at hlines
  simp only [annotate, hlines]
  exact ⟨rfl, rfl⟩

end Receiver.KeepsWrites

theorem Device.keepsWrites_sink : Receiver.KeepsWrites Device.sink := sink_write

/-! ## Behind the first fault -/

/-- Further lines are taken up where the first ones end, unless those end with a failure. -/
theorem Progress.lines_append (t : SymbolTable) (p : Progress σ)
    (before after : List (Except Failure String)) :
    p.lines t (before ++ after) =
      match p.lines t before with
      | (p, .ok ()) => p.lines t after
      | (p, .error failure) => (p, .error failure) := by
  induction before generalizing p with
  | nil => rfl
  | cons item before ih =>
    cases item with
    | error failure => rfl
    | ok text =>
      rw [List.cons_append, lines, lines]
      rcases p.line t text with ⟨p, _ | fault⟩
      · exact ih p
      · rfl

/-- What follows the lines at which a run has failed does not matter to it. -/
theorem annotate_append_of_error (t : SymbolTable) {before : List (Except Failure String)} {s : σ}
    {failure : Failure} (h : (annotate t before s).result = .error failure)
    (after : List (Except Failure String)) :
    annotate t (before ++ after) s = annotate t before s := by
  have hlines := Progress.lines_append t { receiver := s } before after
  simp only [annotate] at h ⊢
  rcases hbefore : Progress.lines t { receiver := s } before with ⟨p, _ | _⟩
  · rw [hlines, hbefore]
  · rw [hbefore] at h
    cases h

/-! ## Runs into a device -/

theorem Listing.eq_map_ok_of_untilError {ε α : Type} {items : List (Except ε α)}
    (h : (untilError items).2 = none) : items = (untilError items).1.map .ok := by
  induction items with
  | nil => rfl
  | cons item items ih =>
    cases item with
    | error e => cases h
    | ok a =>
      rw [untilError_ok] at h ⊢
      rw [List.map_cons, ← ih h]

/-- The counts of some lines: all of them, the block lines, and those without a function. -/
theorem Progress.countAll_eq_of_lines (t : SymbolTable) (lines : List String) :
    countAll t {} lines = {
      read := lines.length
      matched := lines.countP fun line => (Block.parse? line).isSome
      unresolved := lines.countP fun line =>
        (Attribution.ofLine? t line).any (·.function.isNone) } := by
  have hmatched (line : String) :
      (Attribution.ofLine? t line).isSome = (Block.parse? line).isSome := by
    rw [Attribution.ofLine?, Option.isSome_map]
  have hunresolved : (fun a : Attribution => !a.isResolved) = (·.function.isNone) := by
    funext a
    rw [Attribution.isResolved, Option.not_isSome]
  rw [countAll_eq]
  simp only [hmatched, hunresolved, Nat.zero_add]

/-- A run into a device is one write of its outputs, as into a sink. -/
theorem annotate_device_eq (t : SymbolTable) (items : List (Except Failure String)) (d : Device) :
    (annotate t items d).receiver.taken =
        (d.write (Attribution.outputs t (Listing.untilError items).1)).1.taken ∧
      (annotate t items d).result =
        match d.write (Attribution.outputs t (Listing.untilError items).1) with
        | (_, some fault) => .error (.cannotWrite fault)
        | (_, none) =>
          (Listing.untilError items).2.elim
            (.ok (Progress.countAll t {} (Listing.untilError items).1)) .error := by
  obtain ⟨hresult, hreceiver⟩ := Device.keepsWrites_sink.annotate_view t items d
  obtain ⟨hsink, hended⟩ := annotate_eq t items d.sink
  rw [Device.sink_write] at hsink hended
  refine ⟨congrArg Sink.taken (hreceiver.symm.trans hsink), ?_⟩
  rw [← hresult, hended]
  rcases d.write (Attribution.outputs t (Listing.untilError items).1) with ⟨d, _ | fault⟩ <;> rfl

/-- A run into a device with limited room. If the outputs of the lines before the first failure do
not fit, the device takes what fits and the run ends with the device's fault. If they do, the device
takes them all, and the run ends with that first failure, or else with the counts of its lines.
Nothing behind the lines at which it fails matters. -/
theorem annotate_device (t : SymbolTable) (items : List (Except Failure String)) (d : Device) :
    let lines := (Listing.untilError items).1
    let output := (Attribution.outputs t lines).toUTF8
    (d.room < output.size →
      (annotate t items d).result = .error (.cannotWrite d.fault) ∧
        (annotate t items d).receiver.taken = d.taken ++ output.extract 0 d.room) ∧
    (output.size ≤ d.room →
      (annotate t items d).receiver.taken = d.taken ++ output ∧
        (annotate t items d).result =
          match (Listing.untilError items).2 with
          | some failure => .error failure
          | none => .ok {
              read := items.length
              matched := lines.countP fun line => (Block.parse? line).isSome
              unresolved := lines.countP fun line =>
                (Attribution.ofLine? t line).any (·.function.isNone) }) ∧
    ∀ before after failure, items = before ++ after →
      (annotate t before d).result = .error failure → annotate t items d = annotate t before d := by
  intro lines output
  obtain ⟨htaken, hresult⟩ := annotate_device_eq t items d
  refine ⟨fun hlt => ?_, fun hle => ?_, ?_⟩
  · rw [Device.write, Device.writeBytes_of_room_lt hlt] at htaken hresult
    exact ⟨hresult, htaken⟩
  · rw [Device.write, Device.writeBytes_of_size_le hle] at htaken hresult
    refine ⟨?_, hresult.trans ?_⟩
    · rw [htaken, Device.put, ByteArray.extract_zero_size]
    · cases hfailure : (Listing.untilError items).2 with
      | some failure => rfl
      | none =>
        rw [Option.elim_none, Progress.countAll_eq_of_lines]
        have hlength := congrArg List.length (Listing.eq_map_ok_of_untilError hfailure)
        rw [hlength, List.length_map]
  · rintro before after failure rfl hfailed
    exact annotate_append_of_error t hfailed after

/-- A block line in a known function, a line that cannot be read, and the block line again. -/
def brokenItems : List (Except Failure String) :=
  [.ok "[t INFO rv_emu::cpu] Block execution: 0x10 to 0x20",
    .error (.cannotRead "log" { kind := .other }),
    .ok "[t INFO rv_emu::cpu] Block execution: 0x10 to 0x20"]

/-- A device that, once it is full, takes nothing. -/
def emptyDevice (room : Nat) : Device where
  room := room

theorem outputs_brokenItems :
    Attribution.outputs (.ofHeaders [⟨0x10, "f"⟩]) (Listing.untilError brokenItems).1 =
      "[t INFO rv_emu::cpu] Block execution: 0x10 to 0x20 f\n" := by
  decide +kernel

/-- The 53 bytes of the output do not fit where there is room for 52, so that the failure to read is
not met; where they fit, it is. -/
theorem annotate_device_brokenItems :
    (annotate (.ofHeaders [⟨0x10, "f"⟩]) brokenItems (emptyDevice 52)).result =
        .error (.cannotWrite { kind := .incompleteWrite }) ∧
      (annotate (.ofHeaders [⟨0x10, "f"⟩]) brokenItems (emptyDevice 52)).receiver.taken =
        "[t INFO rv_emu::cpu] Block execution: 0x10 to 0x20 f".toUTF8 ∧
      annotate (.ofHeaders [⟨0x10, "f"⟩]) brokenItems (emptyDevice 52) =
        annotate (.ofHeaders [⟨0x10, "f"⟩]) (brokenItems.take 1) (emptyDevice 52) ∧
      (annotate (.ofHeaders [⟨0x10, "f"⟩]) brokenItems (emptyDevice 53)).result =
        .error (.cannotRead "log" { kind := .other }) := by
  obtain ⟨hfull, -, hbehind⟩ :=
    annotate_device (.ofHeaders [⟨0x10, "f"⟩]) brokenItems (emptyDevice 52)
  obtain ⟨-, hfits, -⟩ :=
    annotate_device (.ofHeaders [⟨0x10, "f"⟩]) brokenItems (emptyDevice 53)
  obtain ⟨hfirst, -, -⟩ :=
    annotate_device (.ofHeaders [⟨0x10, "f"⟩]) (brokenItems.take 1) (emptyDevice 52)
  rw [show (Listing.untilError (brokenItems.take 1)).1 =
    (Listing.untilError brokenItems).1 from rfl] at hfirst
  rw [outputs_brokenItems] at hfull hfits hfirst
  obtain ⟨hresult, htaken⟩ := hfull (by decide)
  have hfirst := (hfirst (by decide)).1
  refine ⟨hresult, htaken.trans (by decide), ?_, (hfits (by decide)).2⟩
  exact hbehind (brokenItems.take 1) (brokenItems.drop 1) _ rfl hfirst

end Symbolizer
