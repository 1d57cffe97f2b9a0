import Mathlib.Data.List.Basic
import Mathlib.Data.List.TakeWhile
import Symbolizer.Text.Scan

/-!
# What the steps of a scan take

Each step of a scan, given as the ways in which a text can be made up of what it takes and of what
it leaves. Where what is left can begin with nothing that the step would take, there is one way
only, and the step finds it.
-/

namespace Symbolizer.Text.Scan

/-- Blanks, or nothing. -/
def Blanks (w : List Char) : Prop := ∀ c ∈ w, isBlank c

/-- At least one blank. -/
def Gap (w : List Char) : Prop := w ≠ [] ∧ Blanks w

/-- A hexadecimal numeral. -/
def Numeral (d : List Char) : Prop := d ≠ [] ∧ ∀ c ∈ d, Hex.isDigit c

/-- Whether a text does not go on with a character in `p`. -/
def Stops (p : Char → Bool) (rest : List Char) : Prop := ∀ c ∈ rest.head?, p c = false

theorem stops_cons {p : Char → Bool} {c : Char} (h : p c = false) (rest : List Char) :
    Stops p (c :: rest) := by
  simpa [Stops] using h

theorem takeWhile_append {p : Char → Bool} {run rest : List Char} (hrun : ∀ c ∈ run, p c)
    (hrest : Stops p rest) : (run ++ rest).takeWhile p = run := by
  rw [List.takeWhile_append_of_pos hrun]
  cases rest with
  | nil => simp
  | cons c rest => simp [hrest c rfl]

theorem dropWhile_append {p : Char → Bool} {run rest : List Char} (hrun : ∀ c ∈ run, p c)
    (hrest : Stops p rest) : (run ++ rest).dropWhile p = rest := by
  rw [List.dropWhile_append_of_pos hrun]
  cases rest with
  | nil => rfl
  | cons c rest => simp [hrest c rfl]

theorem stops_dropWhile (p : Char → Bool) (cs : List Char) : Stops p (cs.dropWhile p) := by
  intro c hc
  have := List.head?_dropWhile_not p cs
  rw [Option.mem_def.1 hc] at this
  simpa using this

/-- A text can be cut in one way only into a run in `p` and what does not go on with one. -/
theorem append_inj_of_stops {α : Type} {p : α → Bool} {run run' rest rest' : List α}
    (h : run ++ rest = run' ++ rest') (hrun : ∀ c ∈ run, p c) (hrun' : ∀ c ∈ run', p c)
    (hrest : ∀ c ∈ rest.head?, p c = false) (hrest' : ∀ c ∈ rest'.head?, p c = false) :
    run = run' ∧ rest = rest' := by
  -- A run that is longer than the other would have to go on where the other stops.
  have longer {xs ys zs : List α} (hxs : ∀ c ∈ xs, p c) (hys : ∀ c ∈ ys.head?, p c = false)
      (heq : ys = xs ++ zs) : xs = [] := by
    cases xs with
    | nil => rfl
    | cons c xs => simpa [hxs c List.mem_cons_self] using hys c (by simp [heq])
  rcases List.append_eq_append_iff.1 h with ⟨more, rfl, rfl⟩ | ⟨more, rfl, rfl⟩
  · obtain rfl := longer (fun c hc => hrun' c (List.mem_append_right _ hc)) hrest rfl
    simp
  · obtain rfl := longer (fun c hc => hrun c (List.mem_append_right _ hc)) hrest' rfl
    simp

/-- A text can be cut in one way only at a word that does not come up behind it, if the word begins
as it does not go on. -/
theorem append_inj_of_not_infix {α : Type} {c : α} {word before before' behind behind' : List α}
    (h : before ++ (c :: word ++ behind) = before' ++ (c :: word ++ behind')) (hc : c ∉ word)
    (hbehind : ¬ c :: word <:+: behind) (hbehind' : ¬ c :: word <:+: behind') :
    before = before' ∧ behind = behind' := by
  -- A word that begins later would begin in this one, or stand behind it.
  have later {more xs ys : List α} (hxs : ¬ c :: word <:+: xs)
      (heq : c :: word ++ xs = more ++ (c :: word ++ ys)) : more = [] := by
    cases more with
    | nil => rfl
    | cons d more =>
      rw [List.cons_append, List.cons_append, List.cons.injEq] at heq
      rcases List.append_eq_append_iff.1 heq.2 with ⟨xs', -, hxs'⟩ | ⟨overlap, hword, heq⟩
      · exact absurd ⟨xs', ys, by rw [hxs', List.append_assoc]⟩ hxs
      · cases overlap with
        | nil => exact absurd ⟨[], ys, by simpa using heq⟩ hxs
        | cons d overlap =>
          obtain rfl : c = d := (List.cons.inj heq).1
          exact absurd (by simp [hword]) hc
  rcases List.append_eq_append_iff.1 h with ⟨more, rfl, heq⟩ | ⟨more, rfl, heq⟩
  · obtain rfl := later hbehind heq
    simpa using heq
  · obtain rfl := later hbehind' heq
    simpa using heq.symm

/-- What comes up behind a run without the second symbol of a word, and behind a symbol that is
neither of its first two, comes up with all of the word. -/
theorem infix_of_infix_append_cons {α : Type} {c d s : α} {word run behind : List α}
    (h : c :: d :: word <:+: run ++ s :: behind) (hrun : d ∉ run) (hc : c ≠ s) (hd : d ≠ s) :
    c :: d :: word <:+: behind := by
  have hd : d ∉ run ++ [s] := by simp [hrun, hd]
  rw [List.append_cons, List.infix_append_iff] at h
  rcases h with h | h | ⟨first, second, hword, hfirst, hsecond⟩
  · exact absurd (h.subset (by simp)) hd
  · exact h
  · match first with
    | [] => exact hword ▸ hsecond.isInfix
    | [_] =>
      obtain rfl := (List.cons.inj hword).1
      exact absurd (List.singleton_suffix_append_singleton_iff.1 hfirst) hc
    | _ :: _ :: first =>
      obtain rfl := (List.cons.inj (List.cons.inj hword).2).1
      exact absurd (hfirst.subset (by simp)) hd

/-- The longest run in `p` is whatever is in `p` before something that is not. -/
theorem takeSome?_iff {p : Char → Bool} {cs run rest : List Char} :
    takeSome? p cs = some (run, rest) ↔
      (run ≠ [] ∧ ∀ c ∈ run, p c) ∧ Stops p rest ∧ cs = run ++ rest := by
  rw [takeSome?_eq_some_iff]
  constructor
  · rintro ⟨hne, rfl, rfl⟩
    exact ⟨⟨hne, fun c hc => List.mem_takeWhile_imp hc⟩, stops_dropWhile p cs,
      List.takeWhile_append_dropWhile.symm⟩
  · rintro ⟨⟨hne, hrun⟩, hrest, rfl⟩
    exact ⟨hne, (takeWhile_append hrun hrest).symm, (dropWhile_append hrun hrest).symm⟩

theorem dropWhile_isBlank_iff {cs rest : List Char} :
    cs.dropWhile isBlank = rest ↔
      ∃ w, Blanks w ∧ Stops isBlank rest ∧ cs = w ++ rest := by
  constructor
  · rintro rfl
    exact ⟨cs.takeWhile isBlank, fun c hc => List.mem_takeWhile_imp hc,
      stops_dropWhile isBlank cs, List.takeWhile_append_dropWhile.symm⟩
  · rintro ⟨w, hw, hrest, rfl⟩
    exact dropWhile_append hw hrest

theorem blanks?_iff {cs rest : List Char} :
    blanks? cs = some rest ↔ ∃ w, Gap w ∧ Stops isBlank rest ∧ cs = w ++ rest := by
  simp only [blanks?, Option.map_eq_some_iff, Prod.exists, takeSome?_iff]
  constructor
  · rintro ⟨w, _, h, rfl⟩
    exact ⟨w, h⟩
  · rintro ⟨w, h⟩
    exact ⟨w, rest, h, rfl⟩

theorem digits?_iff {cs d rest : List Char} :
    digits? cs = some (d, rest) ↔ Numeral d ∧ Stops Hex.isDigit rest ∧ cs = d ++ rest :=
  takeSome?_iff

theorem word?_iff {word cs rest : List Char} : word? word cs = some rest ↔ cs = word ++ rest := by
  rw [word?, List.isPrefixOf?_eq_some_iff_append_eq, eq_comm]

/-- No digit is blank. -/
theorem isBlank_of_isDigit {c : Char} (h : Hex.isDigit c) : isBlank c = false := by
  simp only [Hex.isDigit, Bool.or_eq_true, Bool.and_eq_true, decide_eq_true_eq] at h
  simp only [isBlank, blankRanges, Ranges.covers, List.any_cons, List.any_nil, Bool.or_false,
    Bool.or_eq_false_iff, Bool.and_eq_false_imp, decide_eq_true_eq, decide_eq_false_iff_not]
  have toNat_le {a b : Char} : a ≤ b ↔ a.toNat ≤ b.toNat := Iff.rfl
  simp only [toNat_le, Char.reduceToNat] at h
  omega

theorem Numeral.stops {d : List Char} (h : Numeral d) (rest : List Char) :
    Stops isBlank (d ++ rest) := by
  obtain ⟨hne, hd⟩ := h
  cases d with
  | nil => exact absurd rfl hne
  | cons c d => exact stops_cons (isBlank_of_isDigit (hd c List.mem_cons_self)) _

theorem Gap.stops {w : List Char} (h : Gap w) (rest : List Char) :
    Stops Hex.isDigit (w ++ rest) := by
  obtain ⟨hne, hw⟩ := h
  cases w with
  | nil => exact absurd rfl hne
  | cons c w =>
    refine stops_cons (Bool.eq_false_iff.2 fun hc => ?_) _
    simpa [isBlank_of_isDigit hc] using hw c List.mem_cons_self

end Symbolizer.Text.Scan
