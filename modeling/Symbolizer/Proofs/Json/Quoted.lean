import Symbolizer.Json.Quoted

/-!
# Reading quoted strings

What `quote` writes is read back: each character stands for itself or is undone by the escape it was
given (`exists_piece`), so a text comes back whole, and behind it everything that follows its
closing quote (`exists_read?_quote`).
-/

namespace Symbolizer.Json

/-- The escape of a control names it. -/
theorem unit?_control : ∀ n < 0x20,
    unit? ['0', '0', Nat.digitChar (n / 16), Nat.digitChar (n % 16)] = some n := by
  decide

/-- A character below the surrogates that is given by its number. -/
theorem textBehind?_unit {c : Char} (hc : c.toNat < 0xD800) (before : List Char)
    (pieces : List Piece) :
    Piece.textBehind? before (.unit c.toNat :: pieces) =
      Piece.textBehind? (c :: before) pieces := by
  have hhigh : Piece.isHigh c.toNat = false := by
    simp only [Piece.isHigh, Bool.and_eq_false_iff, decide_eq_false_iff_not]
    omega
  have hlow : Piece.isLow c.toNat = false := by
    simp only [Piece.isLow, Bool.and_eq_false_iff, decide_eq_false_iff_not]
    omega
  rw [Piece.textBehind?.eq_def]
  simp only [hhigh, hlow, Bool.false_eq_true, if_false, Char.ofNat_toNat]

/-- A character that needs no escape is read as itself. -/
theorem readBehind?_of_plain {c : Char} (hquote : c ≠ '"') (hbackslash : c ≠ '\\')
    (hcontrol : ¬ c < ' ') (before : List Piece) (rest : List Char) :
    readBehind? before ([c] ++ rest) = readBehind? (.char c :: before) rest := by
  rw [List.singleton_append, readBehind?, if_neg hcontrol]
  · exact hquote
  · exact fun _ _ _ _ _ h _ => hbackslash h
  · exact fun _ _ h _ => hbackslash h

/-- A character is read as one piece, whatever stands around it, and that stands for it. -/
theorem exists_piece (c : Char) :
    ∃ p, (∀ before rest, readBehind? before (escape c ++ rest) = readBehind? (p :: before) rest) ∧
      ∀ before pieces,
        Piece.textBehind? before (p :: pieces) = Piece.textBehind? (c :: before) pieces := by
  fun_cases escape c with
  | case8 c hquote hbackslash _ _ _ _ _ hcontrol => -- by its number
    have hlt : c.toNat < 0x20 := hcontrol
    refine ⟨.unit c.toNat, fun before rest => ?_, textBehind?_unit (by omega)⟩
    simp [readBehind?, unit?_control c.toNat hlt]
  | case9 c hquote hbackslash _ _ _ _ _ hcontrol => -- as itself
    exact ⟨.char c, readBehind?_of_plain hquote hbackslash hcontrol, fun _ _ => rfl⟩
  | _ => -- behind a backslash
    exact ⟨.char _, fun before rest => by simp [readBehind?, unescape?], fun _ _ => rfl⟩

/-- A text between quotes is read up to its closing quote, and its pieces make it up again. -/
theorem exists_read?_quote (s : String) :
    ∃ pieces, Piece.text? pieces = some s ∧
      ∀ rest, read? (s.toList.flatMap escape ++ '"' :: rest) = some (pieces, rest) := by
  have key (cs : List Char) : ∃ pieces,
      (∀ before, Piece.textBehind? before pieces = some (before.reverse ++ cs)) ∧
      ∀ before rest, readBehind? before (cs.flatMap escape ++ '"' :: rest) =
        some (before.reverse ++ pieces, rest) := by
    induction cs with
    | nil => exact ⟨[], fun before => by simp [Piece.textBehind?], fun before rest => by
        simp [readBehind?]⟩
    | cons c cs ih =>
      obtain ⟨p, hread, htext⟩ := exists_piece c
      obtain ⟨pieces, hpieces, hrest⟩ := ih
      refine ⟨p :: pieces, fun before => ?_, fun before rest => ?_⟩
      · rw [htext, hpieces]
        simp
      · rw [List.flatMap_cons, List.append_assoc, hread, hrest]
        simp
  obtain ⟨pieces, htext, hread⟩ := key s.toList
  refine ⟨pieces, ?_, fun rest => hread [] rest⟩
  rw [Piece.text?, htext, List.reverse_nil, List.nil_append, Option.map_some, String.ofList_toList]

end Symbolizer.Json
