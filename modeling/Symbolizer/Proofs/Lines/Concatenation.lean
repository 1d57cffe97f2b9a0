import Symbolizer.Proofs.Lines.Lineation

/-!
# Lines of two texts in a row

Where a text ends with a line's end, the lines of what follows are lines by themselves
(`Lineation.lines_ofList_append`). There is one exception. A CR at the end of one text and an LF at
the start of the next are one end of a line, while in the next text by itself that LF ends an empty
line (`Lineation.lines_ofList_append_joined`).
-/

namespace Symbolizer

open LineSymbols (lineFeed carriageReturn carriageReturn_ne)

variable {α : Type} [LineSymbols α]

/-- Whether a text is empty or ends where a line ends. -/
def EndsLine (s : List α) : Prop :=
  s = [] ∨ s.getLast? = some lineFeed ∨ s.getLast? = some carriageReturn

/-- Whether a line's end is cut in two between two texts. -/
def Joined (s t : List α) : Prop :=
  s.getLast? = some carriageReturn ∧ t.head? = some lineFeed

instance [DecidableEq α] (s t : List α) : Decidable (Joined s t) :=
  inferInstanceAs (Decidable (_ ∧ _))

/-- The end of a line is not a CR unless it is nothing else. -/
theorem LineEnd.getLast?_symbols (e : LineEnd) :
    (e.symbols : List α).getLast? =
      some (if e = .carriageReturn then LineSymbols.carriageReturn else LineSymbols.lineFeed) := by
  cases e <;> rfl

namespace Lineation

theorem getLast?_textOf_none {more : List (List α × LineEnd)} (p : List α × LineEnd) :
    (textOf (more ++ [p]) none).getLast? =
      some (if p.2 = .carriageReturn then carriageReturn else lineFeed) := by
  rw [textOf, Option.getD_none, List.append_nil, List.flatMap_append, List.flatMap_singleton,
    ← List.append_assoc, List.getLast?_append, LineEnd.getLast?_symbols, Option.some_or]

/-- Nothing stands behind the last end of a text that ends where a line ends. -/
theorem last_eq_none {e : Lineation α} (h : EndsLine e.text) : e.last = none := by
  cases hlast : e.last with
  | none => rfl
  | some s =>
    obtain ⟨hne, hplain⟩ := e.plain_last s hlast
    obtain ⟨before, c, rfl⟩ := (List.eq_nil_or_concat s).resolve_left hne
    have htext : e.text.getLast? = some c := by
      simp [text, textOf, hlast]
    have hc : c ≠ lineFeed ∧ c ≠ carriageReturn := hplain c (by simp)
    rcases h with h | h | h
    · simp [h] at htext
    · exact absurd (Option.some.inj (htext.symm.trans h)) hc.1
    · exact absurd (Option.some.inj (htext.symm.trans h)) hc.2

/-- The last line of a text that ends with a CR has that for its end. -/
theorem exists_ended_eq {e : Lineation α} (h : e.text.getLast? = some carriageReturn) :
    ∃ more line, e.ended = more ++ [(line, .carriageReturn)] := by
  rw [text, last_eq_none (.inr (.inr h))] at h
  rcases List.eq_nil_or_concat e.ended with hnil | ⟨more, ⟨line, close⟩, hmore⟩
  · simp [hnil, textOf] at h
  · rw [List.concat_eq_append] at hmore
    rw [hmore, getLast?_textOf_none] at h
    by_cases hclose : close = .carriageReturn
    · exact ⟨more, line, hclose ▸ hmore⟩
    · rw [if_neg hclose] at h
      exact absurd (Option.some.inj h).symm carriageReturn_ne

/-- Two texts in a row, where the first one ends with a line's end and none is cut in two. -/
def append (e f : Lineation α) (hapart : ∀ p ∈ e.ended.getLast?, ∀ q ∈ f.ended.head?, Apart p q) :
    Lineation α where
  ended := e.ended ++ f.ended
  last := f.last
  plain := List.forall_mem_append.2 ⟨e.plain, f.plain⟩
  plain_last := f.plain_last
  apart := List.isChain_append.2 ⟨e.apart, f.apart, hapart⟩

variable {more : List (List α × LineEnd)} {line : List α} {close : LineEnd}

theorem plain_endBoth (h : ∀ p ∈ more ++ [(line, close)], Plain p.1) :
    ∀ p ∈ more ++ [(line, LineEnd.both)], Plain p.1 := by
  rw [List.forall_mem_append, List.forall_mem_singleton] at h ⊢
  exact h

omit [LineSymbols α] in
theorem apart_endBoth (h : (more ++ [(line, close)]).IsChain Apart) :
    (more ++ [(line, LineEnd.both)]).IsChain Apart := by
  refine List.isChain_append.2 ⟨(List.isChain_append.1 h).1, .singleton _, ?_⟩
  rintro p - q ⟨⟩ ⟨-, hq⟩
  cases congrArg Prod.snd hq

/-- The same lines, the last of which has both symbols for its end. -/
def endBoth (e : Lineation α) (h : e.ended = more ++ [(line, close)]) : Lineation α where
  ended := more ++ [(line, .both)]
  last := none
  plain := plain_endBoth (h ▸ e.plain)
  plain_last := nil.plain_last
  apart := apart_endBoth (h ▸ e.apart)

variable [DecidableEq α] {s t : List α}

/-- Behind a line's end that is not cut in two, lines are lines by themselves. -/
theorem lines_ofList_append (hs : EndsLine s) (hcut : ¬ Joined s t) :
    (ofList (s ++ t)).lines = (ofList s).lines ++ (ofList t).lines := by
  obtain ⟨e, rfl⟩ : ∃ e : Lineation α, e.text = s := ⟨_, text_ofList s⟩
  obtain ⟨f, rfl⟩ : ∃ f : Lineation α, f.text = t := ⟨_, text_ofList t⟩
  have hlast := last_eq_none hs
  have hapart : ∀ p ∈ e.ended.getLast?, ∀ q ∈ f.ended.head?, Apart p q := by
    rintro p hp q hq ⟨hreturn, rfl⟩
    obtain ⟨more, hmore⟩ := List.getLast?_eq_some_iff.1 hp
    obtain ⟨behind, hbehind⟩ := List.head?_eq_some_iff.1 hq
    refine hcut ⟨?_, ?_⟩
    · rw [text, hlast, hmore, getLast?_textOf_none, if_pos hreturn]
    · rw [text, hbehind]
      rfl
  have htext : (append e f hapart).text = e.text ++ f.text := by
    simp [append, text, textOf, hlast]
  rw [ofList_eq_iff.2 htext, ofList_text, ofList_text]
  simp [append, lines, hlast]

/-- An LF behind a CR at the end of a text adds no line. -/
theorem lines_ofList_append_lineFeed (hs : s.getLast? = some carriageReturn) :
    (ofList (s ++ [lineFeed])).lines = (ofList s).lines := by
  obtain ⟨e, rfl⟩ : ∃ e : Lineation α, e.text = s := ⟨_, text_ofList s⟩
  have hlast : e.last = none := last_eq_none (.inr (.inr hs))
  obtain ⟨more, line, hmore⟩ := exists_ended_eq hs
  have htext : (e.endBoth hmore).text = e.text ++ [lineFeed] := by
    simp [endBoth, text, textOf, hlast, hmore, LineEnd.symbols]
  rw [ofList_eq_iff.2 htext, ofList_text]
  simp [endBoth, lines, hlast, hmore]

/-- Where a line's end is cut in two, the second text by itself has an empty line more. -/
theorem lines_ofList_append_joined (hs : s.getLast? = some carriageReturn) (t : List α) :
    (ofList (s ++ lineFeed :: t)).lines = (ofList s).lines ++ (ofList t).lines ∧
      (ofList (lineFeed :: t)).lines = [] :: (ofList t).lines := by
  have hend : (s ++ [lineFeed]).getLast? = some lineFeed := List.getLast?_concat
  constructor
  · rw [List.append_cons, lines_ofList_append (.inr (.inl hend)) fun h => ?_,
      lines_ofList_append_lineFeed hs]
    exact carriageReturn_ne (Option.some.inj (h.1.symm.trans hend))
  · simp [ofList, cons, lines, consEnded, consLast]

end Lineation

end Symbolizer
