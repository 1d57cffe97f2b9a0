import Symbolizer.Address

/-!
# Extents

An extent is the run of addresses that one function owns: from `start` up to, and without, `stop`.
An extent without a `stop` has no upper end and holds the highest address too. Membership `a ∈ e`
is the meaning of an extent; `width?` measures it.

In symtrace an extent is a `FunctionRange`, and membership is its `contains`.
-/

namespace Symbolizer

/-- The addresses of one function; no `stop` means that they have no upper end. -/
structure Extent where
  name : String
  start : Address
  stop : Option Address
  deriving DecidableEq, Repr, Inhabited

namespace Extent

/-- An extent holds what is neither below its start nor at or above its stop. -/
instance : Membership Address Extent where
  mem e a := e.start ≤ a ∧ ∀ stop ∈ e.stop, a < stop

theorem mem_def {e : Extent} {a : Address} :
    a ∈ e ↔ e.start ≤ a ∧ ∀ stop ∈ e.stop, a < stop := Iff.rfl

instance (a : Address) (e : Extent) : Decidable (a ∈ e) :=
  match h : e.stop with
  | none => decidable_of_iff (e.start ≤ a) (by simp [mem_def, h])
  | some stop => decidable_of_iff (e.start ≤ a ∧ a < stop) (by simp [mem_def, h])

/-- The number of addresses, for an extent with a stop that is not below its start. -/
def width? (e : Extent) : Option Address :=
  e.stop.bind fun stop => if e.start ≤ stop then some (stop - e.start) else none

/-- Extents in the order of their starts; starts may repeat. -/
def Ordered (es : List Extent) : Prop :=
  es.Pairwise (·.start ≤ ·.start)

/-- Whether each extent starts no earlier than the one before it. -/
def isOrdered : List Extent → Bool
  | d :: e :: es => d.start ≤ e.start && isOrdered (e :: es)
  | _ => true

theorem start_le_of_isOrdered {e : Extent} {es : List Extent} (h : isOrdered (e :: es)) :
    ∀ d ∈ es, e.start ≤ d.start := by
  induction es generalizing e with
  | nil => simp
  | cons d es ih =>
    simp only [isOrdered, Bool.and_eq_true, decide_eq_true_eq] at h
    intro x hx
    rcases List.mem_cons.1 hx with rfl | hx
    · exact h.1
    · exact UInt64.le_trans h.1 (ih h.2 x hx)

/-- Comparing neighbours is enough. -/
theorem isOrdered_iff {es : List Extent} : isOrdered es ↔ Ordered es := by
  induction es with
  | nil => simp [isOrdered, Ordered]
  | cons e es ih =>
    rw [Ordered, List.pairwise_cons]
    constructor
    · intro h
      refine ⟨start_le_of_isOrdered h, ih.1 ?_⟩
      cases es with
      | nil => rfl
      | cons d es => exact (Bool.and_eq_true _ _ ▸ h : _ ∧ _).2
    · intro ⟨h, hs⟩
      cases es with
      | nil => rfl
      | cons d es => simp [isOrdered, h d (by simp), ih.2 hs]

instance (es : List Extent) : Decidable (Ordered es) :=
  decidable_of_iff (isOrdered es) isOrdered_iff

end Extent

end Symbolizer
