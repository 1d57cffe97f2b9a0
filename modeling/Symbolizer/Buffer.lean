import Symbolizer.Receiver

/-!
# Buffers

A buffer in front of a receiver holds the latest part of an output, so that the receiver gets it in
larger parts. A text that still fits is held. Where it does not fit, what is held goes on first, and
a text as long as the whole buffer goes on right behind it. A buffer that goes by lines lets no line
wait that has ended.

`join_put`: a buffer neither loses nor reorders anything.
-/

namespace Symbolizer

/-- The latest part of an output. -/
structure Buffer where
  /-- The number of bytes that are held at most. -/
  capacity : Nat
  /-- Whether lines go on as soon as they have ended. -/
  byLine : Bool := false
  held : String := ""

namespace Buffer

/-- Holds a text, however its lines end; before it, the texts that go on. -/
def hold (b : Buffer) (text : String) : List String × Buffer :=
  if text.utf8ByteSize < b.capacity then
    if b.held.utf8ByteSize + text.utf8ByteSize ≤ b.capacity then
      ([], { b with held := b.held ++ text })
    else
      ([b.held], { b with held := text })
  else
    ([b.held, text], { b with held := "" })

/-- The lines of a text that have ended, with their ends. -/
def endedLines (text : String) : String :=
  .ofList (text.toList.reverse.dropWhile (· ≠ '\n')).reverse

/-- What stands behind the last line of a text that has ended. -/
def openLine (text : String) : String :=
  .ofList (text.toList.reverse.takeWhile (· ≠ '\n')).reverse

/-- Takes a text; before what is held then, the texts that go on. -/
def put (b : Buffer) (text : String) : List String × Buffer :=
  if b.byLine ∧ endedLines text ≠ "" then
    let rest := { b with held := "" }.hold (openLine text)
    ((b.held ++ endedLines text) :: rest.1, rest.2)
  else
    b.hold text

theorem endedLines_append_openLine (text : String) : endedLines text ++ openLine text = text := by
  rw [endedLines, openLine, ← String.ofList_append, ← List.reverse_append,
    List.takeWhile_append_dropWhile, List.reverse_reverse, String.ofList_toList]

theorem join_hold (b : Buffer) (text : String) :
    String.join (b.hold text).1 ++ (b.hold text).2.held = b.held ++ text := by
  unfold hold
  split
  · split <;> simp
  · simp

/-- What goes on and what is then held are what was held and the text. -/
theorem join_put (b : Buffer) (text : String) :
    String.join (b.put text).1 ++ (b.put text).2.held = b.held ++ text := by
  unfold put
  split
  · simp only [String.join_cons, String.append_assoc, join_hold, String.empty_append,
      endedLines_append_openLine]
  · exact join_hold b text

end Buffer

/-- A receiver with a buffer in front of it. -/
structure Buffered (σ : Type) where
  buffer : Buffer
  behind : σ

namespace Buffered

variable {σ : Type} [Receiver σ]

/-- Takes a text; the fault, if the receiver behind did not take what went on to it.

After a fault the buffer has moved on all the same, where `BufWriter` keeps what was not taken. This
does not show: a run ends at its first fault, and all that still happens is the flush that closes the
program, which offers what is held to a device that takes nothing more once it has refused. -/
def write (s : Buffered σ) (text : String) : Buffered σ × Option Fault :=
  let (chunks, buffer) := s.buffer.put text
  let (behind, fault) := Receiver.writeAll s.behind chunks
  ({ buffer, behind }, fault)

/-- Passes on what is held, to the very end. -/
def flush (s : Buffered σ) : Buffered σ × Option Fault :=
  match Receiver.write s.behind s.buffer.held with
  | (behind, some fault) => ({ s with behind }, some fault)
  | (behind, none) =>
    let (behind, fault) := Receiver.flush behind
    ({ buffer := { s.buffer with held := "" }, behind }, fault)

instance : Receiver (Buffered σ) where
  write := write
  flush := flush
  taken s := Receiver.taken s.behind

end Buffered

end Symbolizer
