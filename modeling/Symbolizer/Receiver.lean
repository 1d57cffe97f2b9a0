import Symbolizer.Fault

/-!
# Receivers

An output goes to a receiver, text after text. A receiver may hold back what it was given; a flush
makes it pass that on. Each write and each flush ends well or with a fault.

`writeAll` writes several texts in order and stops at the first fault.
-/

namespace Symbolizer

/-- What an output can be written to. -/
class Receiver (σ : Type) where
  /-- Takes a text; the fault, if not all of it was taken. -/
  write : σ → String → σ × Option Fault
  /-- Passes on what is held back; the fault, if that fails. -/
  flush : σ → σ × Option Fault
  /-- The bytes that have arrived at the end. -/
  taken : σ → ByteArray

namespace Receiver

variable {σ : Type} [Receiver σ]

/-- Takes texts in order, up to the first fault. -/
def writeAll (s : σ) : List String → σ × Option Fault
  | [] => (s, none)
  | text :: rest =>
    match write s text with
    | (s, none) => writeAll s rest
    | (s, some fault) => (s, some fault)

end Receiver

end Symbolizer
