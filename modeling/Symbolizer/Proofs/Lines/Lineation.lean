import Mathlib.Data.List.Chain
import Symbolizer.Lines

/-!
# Lineations

A lineation is a text taken apart into its lines, each with the end it has: an LF, a CR, or both.
An LF right behind a CR never counts by itself. What stands behind the last end is a line too,
unless it is empty.

Every text has exactly one lineation: `ofList` builds it, one symbol after the other from the back
(`cons`), `text_ofList` says that nothing is lost, and `ofList_text` that there is no other. The
symbols are bytes where a text is still to be decoded, and characters where it has been.
-/

namespace Symbolizer

/-- What texts can be made of. Two of the symbols end lines. -/
class LineSymbols (α : Type) where
  lineFeed : α
  carriageReturn : α
  carriageReturn_ne : carriageReturn ≠ lineFeed

instance : LineSymbols UInt8 where
  lineFeed := Reader.lineFeed
  carriageReturn := Reader.carriageReturn
  carriageReturn_ne := by decide

instance : LineSymbols Char where
  lineFeed := '\n'
  carriageReturn := '\r'
  carriageReturn_ne := by decide

open LineSymbols (lineFeed carriageReturn carriageReturn_ne)

/-- How a line ends. -/
inductive LineEnd
  | lineFeed
  | carriageReturn
  | both
  deriving DecidableEq, Repr

/-- Whether a line that has ended may stand before another: a CR and an LF with nothing between
them are one end. -/
def Apart {α : Type} (p q : List α × LineEnd) : Prop :=
  ¬(p.2 = .carriageReturn ∧ q = ([], .lineFeed))

theorem apart_of_ne {α : Type} {p : List α × LineEnd} (h : p.2 ≠ .carriageReturn)
    (q : List α × LineEnd) : Apart p q := fun hc => h hc.1

variable {α : Type} [LineSymbols α]

/-- The symbols of an end. -/
def LineEnd.symbols : LineEnd → List α
  | .lineFeed => [LineSymbols.lineFeed]
  | .carriageReturn => [LineSymbols.carriageReturn]
  | .both => [LineSymbols.carriageReturn, LineSymbols.lineFeed]

/-- A text in which no line ends. -/
def Plain (s : List α) : Prop := ∀ c ∈ s, c ≠ lineFeed ∧ c ≠ carriageReturn

theorem Plain.nil : Plain ([] : List α) := fun _ hc => by simp at hc

theorem plain_cons {c : α} {s : List α} :
    Plain (c :: s) ↔ (c ≠ lineFeed ∧ c ≠ carriageReturn) ∧ Plain s := by
  simp [Plain]

theorem Plain.append {s t : List α} (hs : Plain s) (ht : Plain t) : Plain (s ++ t) :=
  List.forall_mem_append.2 ⟨hs, ht⟩

/-- A text taken apart into lines. -/
@[ext]
structure Lineation (α : Type) [LineSymbols α] where
  /-- The lines that have ended, each with its end. -/
  ended : List (List α × LineEnd)
  /-- What stands behind the last end. -/
  last : Option (List α) := none
  plain : ∀ p ∈ ended, Plain p.1
  plain_last : ∀ s ∈ last, s ≠ [] ∧ Plain s
  apart : ended.IsChain Apart

namespace Lineation

/-- The text over the given lines. -/
def textOf (ended : List (List α × LineEnd)) (last : Option (List α)) : List α :=
  ended.flatMap (fun p => p.1 ++ p.2.symbols) ++ last.getD []

/-- The text that is taken apart. -/
def text (e : Lineation α) : List α := textOf e.ended e.last

/-- The lines without their ends. -/
def lines (e : Lineation α) : List (List α) := e.ended.map (·.1) ++ e.last.toList

/-- The empty text, which has no lines. -/
def nil : Lineation α where
  ended := []
  plain := by simp
  plain_last := by simp
  apart := .nil

/-- What stands behind a CR that ends a line by itself does not begin with an LF. -/
theorem head?_textOf_ne {ended : List (List α × LineEnd)} {last : Option (List α)}
    (plain : ∀ p ∈ ended, Plain p.1) (plain_last : ∀ s ∈ last, s ≠ [] ∧ Plain s)
    (h : ended.head? ≠ some ([], .lineFeed)) : (textOf ended last).head? ≠ some lineFeed := by
  match ended, last with
  | [], none => simp [textOf]
  | [], some [] => simp [textOf]
  | [], some (c :: s) => simpa [textOf] using (plain_cons.1 (plain_last _ rfl).2).1.1
  | (c :: s, e) :: more, _ => simpa [textOf] using (plain_cons.1 (plain _ List.mem_cons_self)).1.1
  | ([], .lineFeed) :: more, _ => exact absurd rfl h
  | ([], .carriageReturn) :: more, _ => simpa [textOf, LineEnd.symbols] using carriageReturn_ne
  | ([], .both) :: more, _ => simpa [textOf, LineEnd.symbols] using carriageReturn_ne

variable [DecidableEq α]

/-- The lines that have ended when one more symbol stands in front of the text. -/
def consEnded (c : α) (ended : List (List α × LineEnd)) : List (List α × LineEnd) :=
  if c = lineFeed then ([], .lineFeed) :: ended
  else if c = carriageReturn then
    match ended with
    | ([], .lineFeed) :: more => ([], .both) :: more
    | ended => ([], .carriageReturn) :: ended
  else
    match ended with
    | [] => []
    | (s, e) :: more => (c :: s, e) :: more

/-- What stands behind the last end when one more symbol stands in front of the text. -/
def consLast (c : α) (ended : List (List α × LineEnd)) (last : Option (List α)) :
    Option (List α) :=
  if c = lineFeed ∨ c = carriageReturn ∨ !ended.isEmpty then last else some (c :: last.getD [])

theorem consEnded_carriageReturn (ended : List (List α × LineEnd)) :
    (∃ more, ended = ([], .lineFeed) :: more ∧
        consEnded carriageReturn ended = ([], .both) :: more) ∨
      (ended.head? ≠ some ([], .lineFeed) ∧
        consEnded carriageReturn ended = ([], .carriageReturn) :: ended) := by
  unfold consEnded
  rw [if_neg carriageReturn_ne, if_pos rfl]
  split
  · exact .inl ⟨_, rfl, rfl⟩
  · next h => exact .inr ⟨fun hc => by cases ended <;> simp_all, rfl⟩

theorem plain_consEnded (c : α) {ended : List (List α × LineEnd)} (h : ∀ p ∈ ended, Plain p.1) :
    ∀ p ∈ consEnded c ended, Plain p.1 := by
  by_cases hf : c = lineFeed
  · simpa [consEnded, hf, Plain.nil] using h
  by_cases hr : c = carriageReturn
  · subst hr
    rcases consEnded_carriageReturn ended with ⟨more, rfl, hc⟩ | ⟨-, hc⟩
    · simp only [hc, List.mem_cons, forall_eq_or_imp] at h ⊢
      exact ⟨Plain.nil, h.2⟩
    · simp only [hc, List.mem_cons, forall_eq_or_imp]
      exact ⟨Plain.nil, h⟩
  · cases ended with
    | nil => simp [consEnded, hf, hr]
    | cons p more =>
      simp only [consEnded, hf, hr, if_false, List.mem_cons, forall_eq_or_imp] at h ⊢
      exact ⟨plain_cons.2 ⟨⟨hf, hr⟩, h.1⟩, h.2⟩

theorem apart_consEnded (c : α) {ended : List (List α × LineEnd)} (h : ended.IsChain Apart) :
    (consEnded c ended).IsChain Apart := by
  by_cases hf : c = lineFeed
  · simpa [consEnded, hf, List.isChain_cons, apart_of_ne] using h
  by_cases hr : c = carriageReturn
  · subst hr
    rcases consEnded_carriageReturn ended with ⟨more, rfl, hc⟩ | ⟨hne, hc⟩
    · rw [hc, List.isChain_cons]
      exact ⟨fun q _ => apart_of_ne (by simp) q, (List.isChain_cons.1 h).2⟩
    · rw [hc, List.isChain_cons]
      exact ⟨fun q hq ha => hne (ha.2 ▸ hq), h⟩
  · cases ended with
    | nil => simp [consEnded, hf, hr]
    | cons p more =>
      simp only [consEnded, hf, hr, if_false, List.isChain_cons] at h ⊢
      exact h

/-- The text with one more symbol in front. -/
def cons (c : α) (e : Lineation α) : Lineation α where
  ended := consEnded c e.ended
  last := consLast c e.ended e.last
  plain := plain_consEnded c e.plain
  plain_last := by
    unfold consLast
    split
    · exact e.plain_last
    · next h =>
      simp only [not_or] at h
      have hp : Plain (e.last.getD []) := by
        cases hl : e.last with
        | none => exact Plain.nil
        | some s => exact (e.plain_last s hl).2
      simpa [plain_cons, h.1, h.2.1] using hp
  apart := apart_consEnded c e.apart

/-- The one lineation of a text. -/
def ofList : List α → Lineation α
  | [] => nil
  | c :: cs => cons c (ofList cs)

theorem text_cons (c : α) (e : Lineation α) : (cons c e).text = c :: e.text := by
  obtain ⟨ended, last, -, -, -⟩ := e
  simp only [text, cons, consLast]
  by_cases hf : c = lineFeed
  · simp [consEnded, textOf, hf, LineEnd.symbols]
  by_cases hr : c = carriageReturn
  · subst hr
    rcases consEnded_carriageReturn ended with ⟨more, rfl, hc⟩ | ⟨-, hc⟩ <;>
      simp [hc, textOf, LineEnd.symbols]
  · cases ended <;> simp [consEnded, textOf, hf, hr]

/-- Nothing is lost and nothing added. -/
theorem text_ofList (cs : List α) : (ofList cs).text = cs := by
  induction cs with
  | nil => rfl
  | cons c cs ih => rw [ofList, text_cons, ih]

/-- Whatever has a first symbol is a lineation of the rest with that symbol in front. -/
theorem exists_eq_cons {e : Lineation α} {c : α} {cs : List α} (h : e.text = c :: cs) :
    ∃ e' : Lineation α, e = cons c e' ∧ e'.text = cs := by
  suffices ∃ e' : Lineation α, e = cons c e' by
    obtain ⟨e', rfl⟩ := this
    exact ⟨e', rfl, by simpa [text_cons] using h⟩
  obtain ⟨ended, last, plain, plain_last, apart⟩ := e
  simp only [text] at h
  match ended with
  | [] =>
    match last with
    | none => simp [textOf] at h
    | some [] => simp [textOf] at h
    | some (d :: s) =>
      obtain ⟨rfl, rfl⟩ : d = c ∧ s = cs := by simpa [textOf] using h
      have hd := plain_cons.1 (plain_last _ rfl).2
      refine ⟨⟨[], if s = [] then none else some s, by simp, ?_, .nil⟩, ?_⟩
      · split <;> simp_all
      · ext1
        · simp [cons, consEnded, hd.1]
        · by_cases hs : s = [] <;> simp [cons, consLast, hd.1, hs]
  | (d :: s, t) :: more =>
    obtain rfl : d = c := by
      simp only [textOf, List.flatMap_cons, List.cons_append, List.cons.injEq] at h
      exact h.1
    have hd := plain_cons.1 (plain _ List.mem_cons_self)
    refine ⟨⟨(s, t) :: more, last, ?_, plain_last, ?_⟩, ?_⟩
    · simp only [List.mem_cons, forall_eq_or_imp] at plain ⊢
      exact ⟨hd.2, plain.2⟩
    · simpa [List.isChain_cons, Apart] using apart
    · ext1 <;> simp [cons, consEnded, consLast, hd.1]
  | ([], t) :: more =>
    have hplain : ∀ p ∈ more, Plain p.1 := fun p hp => plain p (List.mem_cons_of_mem _ hp)
    have happart := List.isChain_cons.1 apart
    cases t with
    | lineFeed =>
      obtain rfl : lineFeed = c := by simpa [textOf, LineEnd.symbols] using (List.cons.inj h).1
      refine ⟨⟨more, last, hplain, plain_last, happart.2⟩, ?_⟩
      ext1 <;> simp [cons, consEnded, consLast]
    | carriageReturn =>
      obtain rfl : carriageReturn = c := (List.cons.inj h).1
      refine ⟨⟨more, last, hplain, plain_last, happart.2⟩, ?_⟩
      rcases consEnded_carriageReturn more with ⟨more', rfl, -⟩ | ⟨-, hc⟩
      · exact absurd ⟨rfl, rfl⟩ (happart.1 _ rfl)
      · ext1 <;> simp [cons, hc, consLast]
    | both =>
      obtain rfl : carriageReturn = c := (List.cons.inj h).1
      refine ⟨⟨([], .lineFeed) :: more, last, ?_, plain_last, ?_⟩, ?_⟩
      · simp only [List.mem_cons, forall_eq_or_imp]
        exact ⟨Plain.nil, hplain⟩
      · exact List.isChain_cons.2 ⟨fun q _ => apart_of_ne (by simp) q, happart.2⟩
      · ext1 <;> simp [cons, consEnded, consLast, carriageReturn_ne]

/-- A text has no second lineation. -/
theorem ofList_text (e : Lineation α) : ofList e.text = e := by
  generalize h : e.text = cs
  induction cs generalizing e with
  | nil =>
    obtain ⟨ended, last, plain, plain_last, apart⟩ := e
    cases ended with
    | nil =>
      cases last with
      | none => rfl
      | some s => exact absurd (by simpa [text, textOf] using h) (plain_last s rfl).1
    | cons p more =>
      have : p.2.symbols = ([] : List α) := by simp_all [text, textOf]
      cases hp : p.2 <;> simp [hp, LineEnd.symbols] at this
  | cons c cs ih =>
    obtain ⟨e', rfl, h'⟩ := exists_eq_cons h
    rw [ofList, ih e' h']

theorem ofList_eq_iff {cs : List α} {e : Lineation α} : ofList cs = e ↔ e.text = cs :=
  ⟨fun h => h ▸ text_ofList cs, fun h => h ▸ ofList_text e⟩

end Lineation

end Symbolizer
