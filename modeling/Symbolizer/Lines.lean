import Symbolizer.Fault
import Symbolizer.Text.Tolerant

/-!
# Lines of a device

A device answers each request with a chunk of bytes or a fault; an empty chunk says that the input
has ended, for now. A `Reader` cuts what it is handed into lines, which end at LF, CR LF or a lone
CR, and decodes each. Interrupted requests are made again. Any other fault is passed on, and the
bytes of the unfinished line are lost with it. The end of input finishes a line that has begun.

`Reader.next` gives one line; `weight_next` says that each answer uses up something of the script,
so `Reader.items` can go on to the first end of input.

In symtrace a reader is a `LossyLines`, as `read_lines_lossy` makes it.
-/

namespace Symbolizer

/-- The answer to one request for input. -/
inductive Delivery
  | chunk (bytes : List UInt8)
  | fault (fault : Fault)
  deriving DecidableEq, Repr

namespace Delivery

/-- How many requests an answer can last for: one for each byte, and one if it has no bytes. -/
def weight : Delivery → Nat
  | chunk bytes => max 1 bytes.length
  | fault _ => 1

theorem weight_pos (d : Delivery) : 0 < d.weight := by
  cases d <;> simp only [weight] <;> omega

/-- How many requests a script can last for. -/
def total : List Delivery → Nat
  | [] => 0
  | d :: script => d.weight + total script

end Delivery

/-- A reader under way: the answers still to come, and whether the last line ended at a CR, so that
an LF right behind it belongs to the same end. -/
structure Reader where
  script : List Delivery
  afterReturn : Bool := false
  deriving DecidableEq, Repr

namespace Reader

/-- The byte LF. -/
def lineFeed : UInt8 := 0x0A

/-- The byte CR. -/
def carriageReturn : UInt8 := 0x0D

/-- Whether a byte belongs to a line rather than to its end. -/
def inLine (b : UInt8) : Bool := b != lineFeed && b != carriageReturn

/-- The line that the end of input finishes, if one has begun. -/
def finished (begun : Option (List UInt8)) : Option (Except Fault String) :=
  begun.map fun line => .ok (Text.Tolerant.decode line)

/-- The answers to come when `rest` of a chunk is left over. -/
def putBack (rest : List UInt8) (script : List Delivery) : List Delivery :=
  if rest.isEmpty then script else .chunk rest :: script

/-- Reads to the end of the line of which `begun` holds the bytes so far, if it has begun. -/
def nextFrom (begun : Option (List UInt8)) (afterReturn : Bool) :
    List Delivery → Option (Except Fault String) × Reader
  | [] => (finished begun, { script := [], afterReturn })
  | .fault f :: script =>
    if f.kind = .interrupted then nextFrom begun afterReturn script
    else (some (.error f), { script, afterReturn })
  | .chunk [] :: script => (finished begun, { script, afterReturn })
  | .chunk (b :: bytes) :: script =>
    -- An LF directly behind the CR that ended the last line is no line of its own.
    let bytes := if afterReturn ∧ b = lineFeed then bytes else b :: bytes
    if bytes.isEmpty then nextFrom begun false script
    else
      let line := begun.getD [] ++ bytes.takeWhile inLine
      match bytes.dropWhile inLine with
      | [] => nextFrom (some line) false script
      | e :: rest =>
        (some (.ok (Text.Tolerant.decode line)),
          { script := putBack rest script, afterReturn := e = carriageReturn })

/-- The next line or fault, or none at an end of input. -/
def next (r : Reader) : Option (Except Fault String) × Reader :=
  nextFrom none r.afterReturn r.script

/-- What the first `n` requests for a line give, also those behind an end of input. -/
def firstAnswers : Nat → Reader → List (Option (Except Fault String))
  | 0, _ => []
  | n + 1, r => r.next.1 :: firstAnswers n r.next.2

/-- What is still to come. -/
def weight (r : Reader) : Nat :=
  Delivery.total r.script

theorem weight_putBack (rest : List UInt8) (script : List Delivery) :
    Delivery.total (putBack rest script) = rest.length + Delivery.total script := by
  cases rest <;> simp [putBack, Delivery.total, Delivery.weight]

theorem length_dropWhile_lt {α : Type} {p : α → Bool} {xs rest : List α} {x : α}
    (h : xs.dropWhile p = x :: rest) : rest.length < xs.length := by
  have := (List.dropWhile_sublist p (l := xs)).length_le
  simp only [h, List.length_cons] at this
  omega

/-- Reading never adds to what is to come, and uses up some of it unless it was used up already. -/
theorem weight_nextFrom (begun : Option (List UInt8)) (afterReturn : Bool)
    (script : List Delivery) :
    script = [] ∨ (nextFrom begun afterReturn script).2.weight < Delivery.total script := by
  -- Where reading goes on it has used up an answer, and every answer weighs something.
  have goOn {begun afterReturn d} {script : List Delivery}
      (ih : script = [] ∨ (nextFrom begun afterReturn script).2.weight < Delivery.total script) :
      (nextFrom begun afterReturn script).2.weight < Delivery.total (d :: script) := by
    have := d.weight_pos
    rcases ih with rfl | ih
    · simpa [nextFrom, weight, Delivery.total] using this
    · rw [Delivery.total]
      omega
  fun_induction nextFrom begun afterReturn script with
  | case1 => exact .inl rfl
  | case2 begun afterReturn f script hf ih => exact .inr (goOn ih)
  | case3 => exact .inr (by simp [weight, Delivery.total, Delivery.weight])
  | case4 => exact .inr (by simp [weight, Delivery.total, Delivery.weight])
  | case5 begun afterReturn b bytes script bs hb ih => exact .inr (goOn ih)
  | case6 begun afterReturn b bytes script bs hb line hdrop ih => exact .inr (goOn ih)
  | case7 begun afterReturn b bytes script bs hb line e rest hdrop =>
    have hlen := length_dropWhile_lt hdrop
    have hbs : bs.length ≤ bytes.length + 1 := by
      simp only [bs]
      split <;> simp
    refine .inr ?_
    rw [weight, weight_putBack, Delivery.total, Delivery.weight, List.length_cons]
    omega

/-- Each line or fault uses up some of what is to come. -/
theorem weight_next {r : Reader} {item : Except Fault String} (h : r.next.1 = some item) :
    r.next.2.weight < r.weight := by
  rcases weight_nextFrom none r.afterReturn r.script with hs | hs
  · simp [next, hs, nextFrom, finished] at h
  · exact hs

/-- The lines and faults up to the first end of input that finishes no line, behind `items`. -/
def itemsBehind (items : Array (Except Fault String)) (r : Reader) :
    Array (Except Fault String) :=
  match h : r.next with
  | (none, _) => items
  | (some item, r') =>
    have : r'.weight < r.weight := by simpa [h] using weight_next (r := r) (by rw [h])
    itemsBehind (items.push item) r'
termination_by r.weight

/-- The lines and faults up to the first end of input that finishes no line. -/
def items (r : Reader) : List (Except Fault String) :=
  (itemsBehind #[] r).toList

theorem toList_itemsBehind (items : Array (Except Fault String)) (r : Reader) :
    (itemsBehind items r).toList = items.toList ++ r.items := by
  have key : ∀ n (r : Reader), r.weight = n → ∀ items : Array (Except Fault String),
      (itemsBehind items r).toList = items.toList ++ (itemsBehind #[] r).toList := by
    intro n
    induction n using Nat.strongRecOn with
    | ind n ih =>
      rintro r rfl items
      rw [itemsBehind, itemsBehind]
      split
      · simp
      · next item r' h =>
        have hw : r'.weight < r.weight := by simpa [h] using weight_next (r := r) (by rw [h])
        rw [ih _ hw _ rfl, ih _ hw _ rfl (#[].push item)]
        simp
  exact key _ r rfl items

/-- The items are the next one and those of the reader behind it. -/
theorem items_eq (r : Reader) :
    r.items = match r.next with
      | (none, _) => []
      | (some item, r') => item :: r'.items := by
  rw [items, itemsBehind]
  split
  · next h => simp [h]
  · next h => simp [h, toList_itemsBehind]

end Reader

end Symbolizer
