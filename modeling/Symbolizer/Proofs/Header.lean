import Symbolizer.Header
import Symbolizer.Proofs.Address
import Symbolizer.Proofs.Text.Scan

/-!
# The grammar of header lines

`HeaderLine.Shape` says how a header line is made up, whatever the number of its digits; a line is
read as one exactly if it is made up like that (`parse?_eq_some_iff`). `Announces` says which
function it announces, if its address fits.
-/

namespace Symbolizer

open Text Text.Scan

/-- A line of the given digits and name: blanks, the digits, blanks, and the name in brackets with a
colon behind them. -/
def HeaderLine.Shape (line digits name : List Char) : Prop :=
  ∃ before between behind, Blanks before ∧ Numeral digits ∧ Gap between ∧
    (name ≠ [] ∧ '>' ∉ name) ∧ Blanks behind ∧
    line = before ++ digits ++ between ++ '<' :: name ++ '>' :: ':' :: behind

namespace HeaderLine

theorem ofChars?_eq_some_iff {line : List Char} {l : HeaderLine} :
    ofChars? line = some l ↔ Shape line l.digits.toList l.name.toList := by
  simp only [ofChars?, Option.bind_eq_bind, Option.bind_eq_some_iff, Prod.exists,
    digits?_iff, blanks?_iff, word?_iff, takeSome?_iff, dropWhile_isBlank_iff,
    Option.ite_none_right_eq_some, Option.some.injEq]
  constructor
  · rintro ⟨digits, r₁, ⟨hdigits, -, before, hbefore, -, e₀⟩, r₂, ⟨between, hbetween, -, e₁⟩,
      r₃, e₂, name, r₄, ⟨⟨hne, hname⟩, -, e₃⟩, behind, e₄, hbehind, rfl⟩
    refine ⟨before, between, behind, hbefore, by simpa using hdigits, hbetween,
      ⟨by simpa using hne, fun hm => ?_⟩, List.all_eq_true.1 hbehind, ?_⟩
    · simpa using hname '>' (by simpa using hm)
    · simp [e₀, e₁, e₂, e₃, e₄]
  · rintro ⟨before, between, behind, hbefore, hdigits, hbetween, ⟨hne, hname⟩, hbehind, rfl⟩
    refine ⟨l.digits.toList, _, ⟨hdigits, hbetween.stops _, before, hbefore, hdigits.stops _, ?_⟩,
      _, ⟨between, hbetween, stops_cons (by decide) _, rfl⟩, _, rfl,
      l.name.toList, _, ⟨⟨hne, fun c hc => ?_⟩, stops_cons (by decide) _, rfl⟩, behind, rfl,
      List.all_eq_true.2 hbehind, ?_⟩
    · simp
    · exact decide_eq_true fun e => hname (e ▸ hc)
    · simp

/-- A line is read as a header line exactly if it has the shape of one. -/
theorem parse?_eq_some_iff {line : String} {l : HeaderLine} :
    parse? line = some l ↔ Shape line.toList l.digits.toList l.name.toList :=
  ofChars?_eq_some_iff

end HeaderLine

/-- A line that announces a function by name, at an address below 2⁶⁴. -/
def Announces (line : String) (address : Nat) (name : String) : Prop :=
  ∃ digits, HeaderLine.Shape line.toList digits name.toList ∧ Hex.value digits = address ∧
    address < UInt64.size

/-- A line is read as a header exactly if it announces the function. -/
theorem Header.parse?_eq_some_iff {line : String} {h : Header} :
    Header.parse? line = some h ↔ Announces line h.address.toNat h.name := by
  simp only [Header.parse?, Option.bind_eq_some_iff, HeaderLine.header?, Option.map_eq_some_iff,
    HeaderLine.parse?_eq_some_iff, Address.ofDigits?_eq_some_iff, Announces]
  constructor
  · rintro ⟨l, hl, a, ha, rfl⟩
    exact ⟨l.digits.toList, hl, ha, a.toNat_lt⟩
  · rintro ⟨digits, hs, hv, -⟩
    exact ⟨{ digits := String.ofList digits, name := h.name }, by simpa using hs, h.address,
      by simpa using hv, rfl⟩

/-- Whatever a line announces is read from it. -/
theorem Announces.exists_header {line : String} {a : Nat} {name : String}
    (h : Announces line a name) :
    ∃ k, Header.parse? line = some k ∧ k.address.toNat = a ∧ k.name = name := by
  have hlt : a < UInt64.size := h.choose_spec.2.2
  refine ⟨{ address := UInt64.ofNatLT a hlt, name }, Header.parse?_eq_some_iff.2 ?_, ?_, rfl⟩
  · rwa [UInt64.toNat_ofNatLT]
  · exact UInt64.toNat_ofNatLT

/-- A line is read as some header exactly if it announces some function. -/
theorem Header.isSome_parse?_iff {line : String} :
    (Header.parse? line).isSome ↔ ∃ a name, Announces line a name := by
  constructor
  · intro h
    obtain ⟨k, hk⟩ := Option.isSome_iff_exists.1 h
    exact ⟨_, _, Header.parse?_eq_some_iff.1 hk⟩
  · rintro ⟨a, name, h⟩
    obtain ⟨k, hk, -⟩ := h.exists_header
    exact Option.isSome_of_mem hk

end Symbolizer
