import Mathlib.Logic.ExistsUnique
import Symbolizer.Proofs.Lines.Lineation
import Symbolizer.Proofs.Lines.Marks

/-!
# Reading a text

A reader over an input that is only cut into chunks gives the lines of the input's lineation, each
decoded, and then nothing more (`firstAnswers_of_cut`). The LF of a CR LF is taken with the request
behind its line; `firstAnswers_afterReturn` says that this does not show.
-/

namespace Symbolizer

open Reader (lineFeed carriageReturn inLine)

theorem Plain.inLine {line : List UInt8} (h : Plain line) : ∀ b ∈ line, inLine b := by
  intro b hb
  have : b ≠ lineFeed ∧ b ≠ carriageReturn := h b hb
  simpa [Reader.inLine] using this

namespace MarkReader

theorem firstAnswers_nil (n : Nat) (afterReturn : Bool) :
    firstAnswers n { marks := [], afterReturn } = List.replicate n none := by
  induction n with
  | zero => rfl
  | succ n ih => rw [firstAnswers, List.replicate_succ, ← ih]; rfl

/-- A line that the end of the input finishes. -/
theorem firstAnswers_last {s : List UInt8} (hs : Plain s) (hne : s ≠ []) (n : Nat) :
    firstAnswers (n + 1) { marks := s.map .byte } =
      some (.ok (Text.Tolerant.decode s)) :: List.replicate n none := by
  have h := nextFrom_inLine hs.inLine hne none []
  rw [List.append_nil] at h
  rw [firstAnswers, next, h, ← firstAnswers_nil n false]
  rfl

/-- Behind a CR an LF might as well not be there. -/
theorem firstAnswers_afterReturn (n : Nat) (bytes : List UInt8) :
    firstAnswers n { marks := bytes.map .byte, afterReturn := true } =
      firstAnswers n {
        marks := (if bytes.head? = some lineFeed then bytes.tail else bytes).map .byte } := by
  cases n with
  | zero => rfl
  | succ n =>
    cases bytes with
    | nil => exact (firstAnswers_nil _ true).trans (firstAnswers_nil _ false).symm
    | cons b bytes =>
      have h := nextFrom_byte none true b bytes []
      simp only [List.append_nil, true_and] at h
      simp only [firstAnswers, next, List.map_cons, h, List.head?_cons, Option.some.injEq,
        List.tail_cons]

/-- A line that has ended is given first; the reader then goes on behind its end. -/
theorem firstAnswers_ended {s : List UInt8} (hs : Plain s) (e : LineEnd) {rest : List UInt8}
    (h : e = .carriageReturn → rest.head? ≠ some lineFeed) (n : Nat) :
    firstAnswers (n + 1) { marks := (s ++ e.symbols ++ rest).map .byte } =
      some (.ok (Text.Tolerant.decode s)) :: firstAnswers n { marks := rest.map .byte } := by
  have line (b : UInt8) (hb : inLine b = false) (behind : List UInt8) :
      firstAnswers (n + 1) { marks := (s ++ b :: behind).map .byte } =
        some (.ok (Text.Tolerant.decode s)) ::
          firstAnswers n { marks := behind.map .byte, afterReturn := b = carriageReturn } := by
    rw [List.map_append, List.map_cons, firstAnswers, next, nextFrom_lineEnd hs.inLine hb]
    rfl
  rw [List.append_assoc]
  cases e with
  | lineFeed => exact line lineFeed rfl rest
  | carriageReturn =>
    refine (line carriageReturn rfl rest).trans ?_
    rw [decide_eq_true rfl, firstAnswers_afterReturn, if_neg (h rfl)]
  | both =>
    refine (line carriageReturn rfl (lineFeed :: rest)).trans ?_
    rw [decide_eq_true rfl, firstAnswers_afterReturn, List.head?_cons, if_pos rfl, List.tail_cons]

/-- A reader gives the lines of a text, and then nothing more. -/
theorem firstAnswers_text (e : Lineation UInt8) (n : Nat) :
    firstAnswers (e.lines.length + n) { marks := e.text.map .byte } =
      e.lines.map (fun line => some (.ok (Text.Tolerant.decode line))) ++
        List.replicate n none := by
  obtain ⟨ended, last, plain, plain_last, apart⟩ := e
  simp only [Lineation.lines, Lineation.text]
  induction ended with
  | nil =>
    cases last with
    | none => simpa [Lineation.textOf] using firstAnswers_nil n false
    | some s =>
      obtain ⟨hne, hs⟩ := plain_last s rfl
      simpa [Lineation.textOf, Nat.add_comm] using firstAnswers_last hs hne n
  | cons p more ih =>
    obtain ⟨hp, hmore⟩ := List.forall_mem_cons.1 plain
    obtain ⟨hhead, hchain⟩ := List.isChain_cons.1 apart
    have h : p.2 = .carriageReturn → (Lineation.textOf more last).head? ≠ some lineFeed :=
      fun hc => Lineation.head?_textOf_ne hmore plain_last fun hq => hhead _ hq ⟨hc, rfl⟩
    have := firstAnswers_ended hp p.2 h ((more.map (·.1) ++ last.toList).length + n)
    rw [ih hmore hchain] at this
    simpa [Lineation.textOf, Nat.add_right_comm] using this

end MarkReader

namespace Reader

/-- However a text comes, its lines are given in order, and then nothing more. -/
theorem firstAnswers_of_cut {e : Lineation UInt8} {script : List Delivery}
    (h : Cut script e.text) (n : Nat) :
    firstAnswers (e.lines.length + n) { script } =
      e.lines.map (fun line => some (.ok (Text.Tolerant.decode line))) ++
        List.replicate n none := by
  rw [firstAnswers_view, view, h.marks_eq]
  exact MarkReader.firstAnswers_text e n

/-- The answers before the first that is none are the items. -/
theorem items_of_firstAnswers {r : Reader} {xs : List (Except Fault String)}
    (h : firstAnswers (xs.length + 1) r = xs.map some ++ [none]) : r.items = xs := by
  induction xs generalizing r with
  | nil =>
    have h₁ : r.next.1 = none := (List.cons.inj h).1
    rw [items_eq]
    split
    · rfl
    · next hn => simp [hn] at h₁
  | cons x xs ih =>
    obtain ⟨h₁, h₂⟩ : r.next.1 = some x ∧ firstAnswers (xs.length + 1) r.next.2 = _ :=
      List.cons.inj h
    rw [items_eq]
    split
    · next hn => simp [hn] at h₁
    · next item r' hn =>
      simp only [hn, Option.some.injEq] at h₁ h₂
      rw [h₁, ih h₂]

/-- The items of a text are its lines. -/
theorem items_of_cut {e : Lineation UInt8} {script : List Delivery} (h : Cut script e.text) :
    items { script } = e.lines.map fun line => .ok (Text.Tolerant.decode line) := by
  apply items_of_firstAnswers
  simpa [Function.comp_def] using firstAnswers_of_cut h 1

/-- Every input has exactly one lineation, and reading it, in whatever chunks it comes and however
often requests for it are interrupted, gives its lines. -/
theorem universal_newlines :
    (∀ bytes : List UInt8, ∃! e : Lineation UInt8, e.text = bytes) ∧
      ∀ (e : Lineation UInt8) (script : List Delivery), Cut script e.text → ∀ n,
        firstAnswers (e.lines.length + n) { script } =
          e.lines.map (fun line => some (.ok (Text.Tolerant.decode line))) ++
            List.replicate n none := by
  refine ⟨fun bytes => ⟨.ofList bytes, Lineation.text_ofList bytes, fun e he => ?_⟩, ?_⟩
  · exact (Lineation.ofList_eq_iff.2 he).symm
  · exact fun e script h n => firstAnswers_of_cut h n

/-- Ends of every kind, one of them interrupted in its middle, and a line without one. -/
theorem universal_newlines_mixed_ends :
    firstAnswers 7 {
        script := [
          .chunk [0x61, 0x0D], .fault { kind := .interrupted }, .chunk [0x0D],
          .chunk [0x0A, 0x0A, 0x62, 0x0D, 0xFF]] } =
      [some (.ok "a"), some (.ok ""), some (.ok ""), some (.ok "b"), some (.ok "\uFFFD"), none,
        none] := by
  have hcut : Cut [.chunk [0x61, 0x0D], .fault { kind := .interrupted }, .chunk [0x0D],
      .chunk [0x0A, 0x0A, 0x62, 0x0D, 0xFF]]
      (Lineation.ofList [0x61, 0x0D, 0x0D, 0x0A, 0x0A, 0x62, 0x0D, 0xFF]).text := by
    rw [Lineation.text_ofList]
    exact .chunk (by decide) (.interrupted rfl (.chunk (by decide) (.chunk (by decide) .nil)))
  exact (universal_newlines.2 _ _ hcut 2).trans (by decide)

end Reader

end Symbolizer
