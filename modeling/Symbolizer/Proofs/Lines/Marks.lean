import Mathlib.Data.List.TakeWhile
import Symbolizer.Lines

/-!
# What shows of a script

The marks of a script are what it says however its bytes are cut into chunks: each byte by itself,
each end of input, and each fault that is passed on. A `MarkReader` takes one mark at a time; it is
what a `Reader` looks like from outside (`view_nextFrom`), answer by answer (`firstAnswers_view`).
So nothing but its marks shows of a script (`firstAnswers_eq_of_marks_eq`).

`Cut` is the case of an input that is only cut into chunks, with interruptions between them.
-/

namespace Symbolizer

/-- The least that a device can be seen to answer. -/
inductive Mark
  | byte (b : UInt8)
  | ended
  | fault (fault : Fault)
  deriving DecidableEq, Repr

/-- The marks of one answer. An interrupted request leaves none. -/
def Delivery.marks : Delivery → List Mark
  | chunk [] => [.ended]
  | chunk (b :: bytes) => (b :: bytes).map .byte
  | fault f => if f.kind = .interrupted then [] else [.fault f]

/-- The marks of a script. -/
def marks (script : List Delivery) : List Mark := script.flatMap Delivery.marks

@[simp] theorem marks_cons (d : Delivery) (script : List Delivery) :
    marks (d :: script) = d.marks ++ marks script := rfl

theorem Delivery.marks_chunk {bytes : List UInt8} (h : bytes ≠ []) :
    (chunk bytes).marks = bytes.map .byte := by
  cases bytes with
  | nil => exact absurd rfl h
  | cons b bytes => rfl

theorem marks_putBack (rest : List UInt8) (script : List Delivery) :
    marks (Reader.putBack rest script) = rest.map .byte ++ marks script := by
  cases rest <;> simp [Reader.putBack, Delivery.marks]

/-- A script that hands over `bytes` in chunks, with interruptions anywhere between them. -/
inductive Cut : List Delivery → List UInt8 → Prop
  | nil : Cut [] []
  | chunk {c : List UInt8} {script : List Delivery} {bytes : List UInt8} (hc : c ≠ []) :
    Cut script bytes → Cut (.chunk c :: script) (c ++ bytes)
  | interrupted {f : Fault} {script : List Delivery} {bytes : List UInt8}
    (hf : f.kind = .interrupted) : Cut script bytes → Cut (.fault f :: script) bytes

theorem Cut.marks_eq {script : List Delivery} {bytes : List UInt8} (h : Cut script bytes) :
    marks script = bytes.map .byte := by
  induction h with
  | nil => rfl
  | chunk hc _ ih => rw [marks_cons, Delivery.marks_chunk hc, ih, List.map_append]
  | interrupted hf _ ih => simp [Delivery.marks, hf, ih]

/-- A file's bytes come in one chunk, if there are any. -/
theorem Cut.single (bytes : List UInt8) :
    Cut (if bytes.isEmpty then [] else [.chunk bytes]) bytes := by
  cases bytes with
  | nil => exact .nil
  | cons b bytes => simpa using Cut.chunk (List.cons_ne_nil b bytes) .nil

/-- A reader of marks: those still to come, and whether the last line ended at a CR. -/
structure MarkReader where
  marks : List Mark
  afterReturn : Bool := false
  deriving DecidableEq, Repr

/-- A reader as its marks show it. -/
def Reader.view (r : Reader) : MarkReader where
  marks := Symbolizer.marks r.script
  afterReturn := r.afterReturn

namespace MarkReader

open Reader (finished inLine lineFeed carriageReturn)

/-- Reads to the end of the line of which `begun` holds the bytes so far, if it has begun. -/
def nextFrom (begun : Option (List UInt8)) (afterReturn : Bool) :
    List Mark → Option (Except Fault String) × MarkReader
  | [] => (finished begun, { marks := [], afterReturn })
  | .ended :: ms => (finished begun, { marks := ms, afterReturn })
  | .fault f :: ms => (some (.error f), { marks := ms, afterReturn })
  | .byte b :: ms =>
    if afterReturn ∧ b = lineFeed then nextFrom begun false ms
    else if inLine b then nextFrom (some (begun.getD [] ++ [b])) false ms
    else
      (some (.ok (Text.Tolerant.decode (begun.getD []))),
        { marks := ms, afterReturn := b = carriageReturn })

/-- The next line or fault, or none at an end of input. -/
def next (r : MarkReader) : Option (Except Fault String) × MarkReader :=
  nextFrom none r.afterReturn r.marks

/-- What the first `n` requests for a line give, also those behind an end of input. -/
def firstAnswers : Nat → MarkReader → List (Option (Except Fault String))
  | 0, _ => []
  | n + 1, r => r.next.1 :: firstAnswers n r.next.2

/-- That the last line ended at a CR matters to an LF only, and only right behind it. -/
theorem nextFrom_byte (begun : Option (List UInt8)) (afterReturn : Bool) (b : UInt8)
    (bytes : List UInt8) (ms : List Mark) :
    nextFrom begun afterReturn (.byte b :: (bytes.map .byte ++ ms)) =
      nextFrom begun false
        ((if afterReturn ∧ b = lineFeed then bytes else b :: bytes).map .byte ++ ms) := by
  by_cases h : afterReturn ∧ b = lineFeed
  · rw [nextFrom, if_pos h, if_pos h]
  · rw [if_neg h, List.map_cons, List.cons_append, nextFrom, nextFrom, if_neg h,
      if_neg (show ¬((false : Bool) = true ∧ b = lineFeed) by simp)]

/-- Bytes of a line are added to it. -/
theorem nextFrom_inLine {line : List UInt8} (hl : ∀ b ∈ line, inLine b) (hne : line ≠ [])
    (begun : Option (List UInt8)) (ms : List Mark) :
    nextFrom begun false (line.map .byte ++ ms) =
      nextFrom (some (begun.getD [] ++ line)) false ms := by
  induction line generalizing begun with
  | nil => exact absurd rfl hne
  | cons b line ih =>
    have hb : inLine b := hl b List.mem_cons_self
    rw [List.map_cons, List.cons_append, nextFrom, if_neg (by simp), if_pos hb]
    cases line with
    | nil => rfl
    | cons c line =>
      rw [ih (fun x hx => hl x (List.mem_cons_of_mem _ hx)) (List.cons_ne_nil c line)]
      simp

/-- The end of a line gives the line. -/
theorem nextFrom_lineEnd {line : List UInt8} (hl : ∀ b ∈ line, inLine b) {e : UInt8}
    (he : inLine e = false) (begun : Option (List UInt8)) (ms : List Mark) :
    nextFrom begun false (line.map .byte ++ .byte e :: ms) =
      (some (.ok (Text.Tolerant.decode (begun.getD [] ++ line))),
        { marks := ms, afterReturn := e = carriageReturn }) := by
  cases line with
  | nil => simp [nextFrom, he]
  | cons b line =>
    rw [nextFrom_inLine hl (List.cons_ne_nil b line)]
    simp [nextFrom, he]

end MarkReader

namespace Reader

/-- One line is read alike from a script and from its marks. -/
theorem view_nextFrom (begun : Option (List UInt8)) (afterReturn : Bool) (script : List Delivery) :
    (nextFrom begun afterReturn script).map id view =
      MarkReader.nextFrom begun afterReturn (marks script) := by
  fun_induction nextFrom begun afterReturn script with
  | case1 => rfl
  | case2 begun afterReturn f script hf ih => simpa [Delivery.marks, hf] using ih
  | case3 begun afterReturn f script hf => simp [Delivery.marks, hf, MarkReader.nextFrom, view]
  | case4 => rfl
  | case5 begun afterReturn b bytes script bs hb ih =>
    rw [ih, marks_cons, Delivery.marks, List.map_cons, List.cons_append, MarkReader.nextFrom_byte]
    change _ = MarkReader.nextFrom begun false (bs.map .byte ++ _)
    rw [List.isEmpty_iff.1 hb, List.map_nil, List.nil_append]
  | case6 begun afterReturn b bytes script bs hb line hdrop ih =>
    have hin : ∀ b ∈ bs.takeWhile inLine, inLine b := fun _ => List.mem_takeWhile_imp
    have hline : bs.takeWhile inLine = bs := by
      simpa [hdrop] using List.takeWhile_append_dropWhile (p := inLine) (l := bs)
    rw [ih, marks_cons, Delivery.marks, List.map_cons, List.cons_append, MarkReader.nextFrom_byte]
    change _ = MarkReader.nextFrom begun false (bs.map .byte ++ _)
    rw [MarkReader.nextFrom_inLine (hline ▸ hin) (by simpa using hb)]
    simp only [line, hline]
  | case7 begun afterReturn b bytes script bs hb line e rest hdrop =>
    have hin : ∀ b ∈ bs.takeWhile inLine, inLine b := fun _ => List.mem_takeWhile_imp
    have he : inLine e = false := by
      have := List.head_dropWhile_not inLine (l := bs) (by simp [hdrop])
      simpa [hdrop] using this
    rw [marks_cons, Delivery.marks, List.map_cons, List.cons_append, MarkReader.nextFrom_byte]
    change _ = MarkReader.nextFrom begun false (bs.map .byte ++ _)
    rw [← List.takeWhile_append_dropWhile (p := inLine) (l := bs), hdrop, List.map_append,
      List.map_cons, List.append_assoc, List.cons_append,
      MarkReader.nextFrom_lineEnd hin he]
    simp [Prod.map, view, marks_putBack, line]

/-- A reader's answers, to whatever number of requests, are those its marks give. -/
theorem firstAnswers_view (n : Nat) (r : Reader) :
    firstAnswers n r = r.view.firstAnswers n := by
  induction n generalizing r with
  | zero => rfl
  | succ n ih =>
    have h : r.next.map id view = r.view.next := view_nextFrom none r.afterReturn r.script
    have h₁ : r.next.1 = r.view.next.1 := congrArg Prod.fst h
    have h₂ : r.next.2.view = r.view.next.2 := congrArg Prod.snd h
    rw [firstAnswers, MarkReader.firstAnswers, ih, h₁, h₂]

/-- How an input is cut into chunks, and where requests for it were interrupted, never shows. -/
theorem firstAnswers_eq_of_marks_eq {s t : List Delivery} (h : marks s = marks t)
    (afterReturn : Bool) (n : Nat) :
    firstAnswers n { script := s, afterReturn } = firstAnswers n { script := t, afterReturn } := by
  rw [firstAnswers_view, firstAnswers_view, view, view, h]

/-- A CR LF and a character of three bytes, each cut in two, beside a fault and an early end. -/
theorem firstAnswers_split_character :
    marks [.chunk [0x61, 0x0D], .fault { kind := .interrupted }, .chunk [0x0A, 0xE2], .chunk [0x82],
        .fault { kind := .interrupted }, .chunk [0xAC], .chunk [], .fault { kind := .other },
        .chunk [0x0A]] =
      marks [.chunk [0x61], .chunk [0x0D, 0x0A, 0xE2, 0x82, 0xAC], .chunk [],
        .fault { kind := .other }, .fault { kind := .interrupted }, .chunk [0x0A]] ∧
    firstAnswers 6 { script := [.chunk [0x61, 0x0D], .fault { kind := .interrupted },
        .chunk [0x0A, 0xE2], .chunk [0x82], .fault { kind := .interrupted }, .chunk [0xAC],
        .chunk [], .fault { kind := .other }, .chunk [0x0A]] } =
      firstAnswers 6 { script := [.chunk [0x61], .chunk [0x0D, 0x0A, 0xE2, 0x82, 0xAC],
        .chunk [], .fault { kind := .other }, .fault { kind := .interrupted }, .chunk [0x0A]] } :=
  ⟨by decide, firstAnswers_eq_of_marks_eq (by decide) false 6⟩

end Reader

end Symbolizer
