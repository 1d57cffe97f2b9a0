import Symbolizer.Receiver

/-!
# Sinks

A sink takes the bytes of an output in order, up to a limit that it may have. A write that crosses
the limit is taken up to it, and refused. A sink holds nothing back; it counts its flushes, and they
may fail.

`writeAll_eq_write_join`: into how many texts an output is cut does not matter to a sink.
-/

namespace Symbolizer

/-- A receiver of bytes, and what it has taken so far. -/
structure Sink where
  taken : ByteArray := .empty
  limit : Option Nat := none
  refusal : Fault := { kind := .incompleteWrite }
  flushFault : Option Fault := none
  flushes : Nat := 0

namespace Sink

/-- How many of `n` bytes the sink still takes. -/
def accepts (s : Sink) (n : Nat) : Nat :=
  match s.limit with
  | none => n
  | some limit => min n (limit - s.taken.size)

/-- Writes a text; the fault, if not all of it was taken. -/
def write (s : Sink) (text : String) : Sink × Option Fault :=
  let bytes := text.toUTF8
  let accepted := s.accepts bytes.size
  -- Taking the sink apart leaves its bytes without a second owner, so that they grow in place.
  let ⟨taken, limit, refusal, flushFault, flushes⟩ := s
  if accepted < bytes.size then
    (⟨taken ++ bytes.extract 0 accepted, limit, refusal, flushFault, flushes⟩, some refusal)
  else
    (⟨taken ++ bytes, limit, refusal, flushFault, flushes⟩, none)

/-- Counts the flush; the fault, if it fails. -/
def flush (s : Sink) : Sink × Option Fault :=
  ({ s with flushes := s.flushes + 1 }, s.flushFault)

instance : Receiver Sink where
  write := write
  flush := flush
  taken := taken

theorem accepts_le (s : Sink) (n : Nat) : s.accepts n ≤ n := by
  unfold accepts
  split <;> omega

/-- A write is refused exactly if it is longer than what the sink accepts. -/
theorem write_snd (s : Sink) (text : String) :
    (s.write text).2 =
      if s.accepts text.toUTF8.size < text.toUTF8.size then some s.refusal else none := by
  simp only [write]
  split <;> rfl

/-- A write adds what the sink accepts of it. -/
theorem taken_write (s : Sink) (text : String) :
    (s.write text).1.taken = s.taken ++ text.toUTF8.extract 0 (s.accepts text.toUTF8.size) := by
  simp only [write]
  split
  · rfl
  · next h =>
    have : s.accepts text.toUTF8.size = text.toUTF8.size :=
      Nat.le_antisymm (s.accepts_le _) (Nat.not_lt.1 h)
    rw [this, ByteArray.extract_zero_size]

/-- A write changes nothing but what the sink has taken. -/
theorem write_fst (s : Sink) (text : String) :
    (s.write text).1 = { s with taken := (s.write text).1.taken } := by
  simp only [write]
  split <;> rfl

/-- Two writes are one write of both texts, unless the first is refused. -/
theorem write_append (s : Sink) (a b : String) :
    s.write (a ++ b) =
      match s.write a with
      | (s, none) => s.write b
      | (s, some fault) => (s, some fault) := by
  obtain ⟨taken, limit, refusal, flushFault, flushes⟩ := s
  cases limit with
  | none => simp [write, accepts, ByteArray.append_assoc]
  | some limit =>
    simp only [write, accepts, String.toUTF8_eq_toByteArray, String.toByteArray_append,
      ByteArray.size_append, ByteArray.extract_append, String.size_toByteArray]
    by_cases h : limit - taken.size < a.utf8ByteSize
    · simp [Nat.min_eq_right (Nat.le_of_lt h), h, Nat.sub_eq_zero_of_le (Nat.le_of_lt h),
        show min (a.utf8ByteSize + b.utf8ByteSize) (limit - taken.size) = limit - taken.size by omega,
        show limit - taken.size < a.utf8ByteSize + b.utf8ByteSize by omega]
    · have hb : min (a.utf8ByteSize + b.utf8ByteSize) (limit - taken.size) =
          a.utf8ByteSize + min b.utf8ByteSize (limit - (taken.size + a.utf8ByteSize)) := by omega
      simp only [Nat.min_eq_left (Nat.not_lt.1 h), hb, Nat.lt_irrefl, ↓reduceIte,
        ByteArray.size_append, String.size_toByteArray, Nat.add_sub_cancel_left,
        Nat.add_lt_add_iff_left, Nat.zero_sub, ByteArray.append_assoc]
      split
      · congr
        ext1
        simp
      · rfl

theorem write_empty (s : Sink) : s.write "" = (s, none) := by
  simp [write]

/-- What is written in several texts is written as if in one. -/
theorem writeAll_eq_write_join (s : Sink) (texts : List String) :
    Receiver.writeAll s texts = s.write (String.join texts) := by
  induction texts generalizing s with
  | nil => simp [Receiver.writeAll, write_empty]
  | cons text rest ih =>
    rw [String.join_cons, write_append, Receiver.writeAll]
    rw [show Receiver.write s text = s.write text from rfl]
    split <;> simp_all

end Sink

end Symbolizer
