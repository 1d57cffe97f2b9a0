/-!
# Tolerant decoding of UTF-8

`decode` turns any bytes into text. Well-formed sequences become their characters; every maximal
piece of an ill-formed one becomes a single U+FFFD, and the byte that broke a sequence off is read
again as the first of the next.

The decoder is a machine that takes one byte at a time (`step`); between characters nothing is
pending. `text_foldl_feed` says that text once decoded is never taken back.
-/

namespace Symbolizer.Text.Tolerant

/-- What stands for an ill-formed piece. -/
def replacement : Char := '\uFFFD'

/-- A sequence that has begun: its bits so far, the bytes still owed, and what the next may be. -/
structure Pending where
  bits : Nat
  owed : Nat
  low : UInt8 := 0x80
  high : UInt8 := 0xBF
  deriving DecidableEq, Repr

/-- What a byte brings from between characters: the characters it completes and the sequence it
begins. -/
def start (b : UInt8) : List Char × Option Pending :=
  if b < 0x80 then ([Char.ofNat b.toNat], none)
  else if b < 0xC2 then ([replacement], none)
  else if b < 0xE0 then ([], some ⟨b.toNat - 0xC0, 1, 0x80, 0xBF⟩)
  else if b = 0xE0 then ([], some ⟨0, 2, 0xA0, 0xBF⟩)
  else if b = 0xED then ([], some ⟨0xD, 2, 0x80, 0x9F⟩)
  else if b < 0xF0 then ([], some ⟨b.toNat - 0xE0, 2, 0x80, 0xBF⟩)
  else if b = 0xF0 then ([], some ⟨0, 3, 0x90, 0xBF⟩)
  else if b < 0xF4 then ([], some ⟨b.toNat - 0xF0, 3, 0x80, 0xBF⟩)
  else if b = 0xF4 then ([], some ⟨4, 3, 0x80, 0x8F⟩)
  else ([replacement], none)

/-- What a byte brings to a sequence that has begun. -/
def Pending.continue (p : Pending) (b : UInt8) : List Char × Option Pending :=
  let bits := 64 * p.bits + (b.toNat - 0x80)
  if p.owed ≤ 1 then ([Char.ofNat bits], none) else ([], some { bits, owed := p.owed - 1 })

/-- One byte: the characters it completes, and what is pending after it. -/
def step (pending : Option Pending) (b : UInt8) : List Char × Option Pending :=
  match pending with
  | none => start b
  | some p =>
    if p.low ≤ b ∧ b ≤ p.high then p.continue b
    else (replacement :: (start b).1, (start b).2)

/-- A decoder under way: the text so far and the sequence pending behind it. -/
structure Decoder where
  text : String := ""
  pending : Option Pending := none

/-- The decoder after one more byte. -/
def Decoder.feed (d : Decoder) (b : UInt8) : Decoder :=
  let (chars, pending) := step d.pending b
  { text := chars.foldl String.push d.text, pending }

/-- The text at the end of the bytes: a sequence left pending is ill-formed. -/
def Decoder.finish (d : Decoder) : String :=
  if d.pending.isSome then d.text.push replacement else d.text

/-- The text of any bytes. -/
def decode (bytes : List UInt8) : String :=
  (bytes.foldl Decoder.feed {}).finish

theorem toList_foldl_push (chars : List Char) (s : String) :
    (chars.foldl String.push s).toList = s.toList ++ chars := by
  induction chars generalizing s with
  | nil => simp
  | cons c chars ih => simp [ih]

theorem toList_text_feed (d : Decoder) (b : UInt8) :
    (d.feed b).text.toList = d.text.toList ++ (step d.pending b).1 := by
  simp [Decoder.feed, toList_foldl_push]

theorem pending_feed (d : Decoder) (b : UInt8) :
    (d.feed b).pending = (step d.pending b).2 := rfl

/-- Text once decoded is never taken back. -/
theorem text_foldl_feed (bytes : List UInt8) (d : Decoder) :
    ∃ more, (bytes.foldl Decoder.feed d).text.toList = d.text.toList ++ more := by
  induction bytes generalizing d with
  | nil => exact ⟨[], by simp⟩
  | cons b bytes ih =>
    obtain ⟨more, h⟩ := ih (d.feed b)
    exact ⟨(step d.pending b).1 ++ more, by simp [h, toList_text_feed]⟩

end Symbolizer.Text.Tolerant
