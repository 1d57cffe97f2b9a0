import Symbolizer.Listing
import Symbolizer.Proofs.Header
import Symbolizer.Proofs.Text.Hex

/-!
# The parts of a header line

`Parts` are all the pieces that a header line is put together from. A line can be put together in
one way only (`Parts.eq_of_text_eq`): each piece ends where the first character stands that it
cannot hold. The parts decide what is read from a line, and whether there is anything to tell of it
(`Header.parse?_unique_parts`).

`Header.listed` is the line by which a disassembler announces a function.
-/

namespace Symbolizer

open Text Text.Scan

namespace HeaderLine

/-- What a header line is put together from: blanks, the digits of the address, blanks, the name,
and blanks. -/
@[ext]
structure Parts where
  before : List Char
  digits : List Char
  between : List Char
  name : List Char
  behind : List Char
  blanks_before : Blanks before
  numeral_digits : Numeral digits
  gap_between : Gap between
  name_ne_nil : name ≠ []
  bracket_notMem : '>' ∉ name
  blanks_behind : Blanks behind

namespace Parts

/-- The line that is put together. -/
def text (p : Parts) : String :=
  String.ofList
    (p.before ++ p.digits ++ p.between ++ '<' :: p.name ++ '>' :: ':' :: p.behind)

theorem eq_of_text_eq {p q : Parts} (h : p.text = q.text) : p = q := by
  have hangle (rest : List Char) : Stops isBlank ('<' :: rest) := stops_cons (by decide) _
  have hname (r : Parts) : ∀ c ∈ r.name, (c ≠ '>' : Bool) := by
    intro c hc
    exact decide_eq_true fun hbracket => r.bracket_notMem (hbracket ▸ hc)
  have hbracket (rest : List Char) : Stops (· ≠ '>') ('>' :: rest) := stops_cons (by decide) _
  have h := String.ofList_inj.1 h
  simp only [List.append_assoc, List.cons_append] at h
  obtain ⟨hbefore, h⟩ := append_inj_of_stops h p.blanks_before q.blanks_before
    (p.numeral_digits.stops _) (q.numeral_digits.stops _)
  obtain ⟨hdigits, h⟩ := append_inj_of_stops h p.numeral_digits.2 q.numeral_digits.2
    (p.gap_between.stops _) (q.gap_between.stops _)
  obtain ⟨hbetween, h⟩ := append_inj_of_stops h p.gap_between.2 q.gap_between.2
    (hangle _) (hangle _)
  obtain ⟨hnames, h⟩ := append_inj_of_stops (List.cons.inj h).2 (hname p) (hname q)
    (hbracket _) (hbracket _)
  exact Parts.ext hbefore hdigits hbetween hnames ((List.append_right_inj ['>', ':']).1 h)

end Parts

/-- A line has a shape exactly if it can be put together from parts of that shape. -/
theorem shape_iff {line : String} {digits name : List Char} :
    Shape line.toList digits name ↔
      ∃ p : Parts, p.text = line ∧ p.digits = digits ∧ p.name = name := by
  constructor
  · rintro ⟨before, between, behind, hbefore, hdigits, hbetween, ⟨hne, hname⟩, hbehind, hline⟩
    refine ⟨⟨before, digits, between, name, behind, hbefore, hdigits, hbetween, hne, hname,
      hbehind⟩, ?_, rfl, rfl⟩
    rw [← String.ofList_toList (s := line), hline]
    rfl
  · rintro ⟨p, rfl, rfl, rfl⟩
    exact ⟨p.before, p.between, p.behind, p.blanks_before, p.numeral_digits, p.gap_between,
      ⟨p.name_ne_nil, p.bracket_notMem⟩, p.blanks_behind, String.toList_ofList⟩

theorem parse?_iff_parts {line : String} {l : HeaderLine} :
    HeaderLine.parse? line = some l ↔
      ∃ p : Parts, p.text = line ∧ l = ⟨String.ofList p.digits, String.ofList p.name⟩ := by
  rw [parse?_eq_some_iff, shape_iff]
  refine exists_congr fun p => and_congr_right fun _ => ?_
  obtain ⟨digits, name⟩ := l
  rw [HeaderLine.mk.injEq, ← String.toList_inj, ← @String.toList_inj name,
    String.toList_ofList, String.toList_ofList, eq_comm, eq_comm (a := p.name)]

end HeaderLine

open HeaderLine (Parts)

theorem Header.parse?_iff_parts {line : String} {h : Header} :
    Header.parse? line = some h ↔
      ∃ p : Parts, p.text = line ∧ Hex.value p.digits = h.address.toNat ∧
        String.ofList p.name = h.name := by
  rw [Header.parse?_eq_some_iff, Announces]
  simp only [HeaderLine.shape_iff]
  constructor
  · rintro ⟨_, ⟨p, hp, rfl, hname⟩, hvalue, -⟩
    exact ⟨p, hp, hvalue, by rw [hname, String.ofList_toList]⟩
  · rintro ⟨p, hp, hvalue, hname⟩
    exact ⟨_, ⟨p, hp, rfl, by rw [← hname, String.toList_ofList]⟩, hvalue, h.address.toNat_lt⟩

/-- A line is told of exactly if it can be put together as a header line of an address that is too
wide. -/
theorem Listing.diagnostic?_iff_parts {line : String} {x : Diagnostic} :
    diagnostic? line = some x ↔
      ∃ p : Parts, p.text = line ∧ UInt64.size ≤ Hex.value p.digits ∧
        x = .oversizedHeader ⟨String.ofList p.digits, String.ofList p.name⟩ := by
  simp only [diagnostic?, Option.bind_eq_some_iff, HeaderLine.parse?_iff_parts, oversized?,
    HeaderLine.header?, Option.isNone_map, Option.isNone_iff_eq_none,
    Address.ofDigits?_eq_none_iff, Option.ite_none_right_eq_some, Option.some.injEq]
  constructor
  · rintro ⟨_, ⟨p, hp, rfl⟩, hover, rfl⟩
    exact ⟨p, hp, by rwa [String.toList_ofList] at hover, rfl⟩
  · rintro ⟨p, hp, hover, rfl⟩
    exact ⟨_, ⟨p, hp, rfl⟩, by rwa [String.toList_ofList], rfl⟩

theorem Diagnostic.eq_oversizedHeader_iff {x : Diagnostic} {digits name : String} :
    x = .oversizedHeader ⟨digits, name⟩ ↔
      x.message = "skipping header with oversized address" ∧
        x.fields = [⟨"addr", digits, true⟩, ⟨"func", name, true⟩] := by
  cases x with
  | oversizedHeader l => cases l; simp [message, fields]
  | _ => simp [message]

/-- The line of a listing that announces a function: its address in 16 digits, and its name. -/
def Header.listed (h : Header) : String :=
  String.ofList (Hex.ofWidth 16 h.address.toNat) ++ " <" ++ h.name ++ ">:"

/-- A function is read back from the line that announces it. -/
theorem Header.parse?_listed {h : Header} (hne : h.name ≠ "") (hname : '>' ∉ h.name.toList) :
    Header.parse? h.listed = some h := by
  have hvalue : Hex.value (Hex.ofWidth 16 h.address.toNat) = h.address.toNat :=
    Hex.value_ofWidth h.address.toNat_lt
  refine Header.parse?_iff_parts.2 ⟨{
    before := []
    digits := Hex.ofWidth 16 h.address.toNat
    between := [' ']
    name := h.name.toList
    behind := []
    blanks_before := by simp [Blanks]
    numeral_digits := ⟨List.ne_nil_of_length_pos (by simp [Hex.length_ofWidth]),
      Hex.isDigit_of_mem_ofWidth 16 _⟩
    gap_between := ⟨by simp, List.all_eq_true.1 (by decide)⟩
    name_ne_nil := by simpa using hne
    bracket_notMem := hname
    blanks_behind := by simp [Blanks] }, ?_, hvalue, String.ofList_toList⟩
  rw [← String.toList_inj]
  simp [Parts.text, listed]

/-- A line is read as a header exactly if it can be put together as a header line of the header's
address and name. There is no second way to put it together. A line whose address is too wide is no
header; it is told of with its digits and name, and no other line is told of. What a disassembler
writes for a function is read as that function. -/
theorem Header.parse?_unique_parts (line : String) :
    (∀ h, Header.parse? line = some h ↔
      ∃ p : Parts, p.text = line ∧ Hex.value p.digits = h.address.toNat ∧
        String.ofList p.name = h.name) ∧
    (∀ p q : Parts, p.text = line → q.text = line → p = q) ∧
    (∀ p : Parts, p.text = line → UInt64.size ≤ Hex.value p.digits → Header.parse? line = none) ∧
    (∀ x, Listing.diagnostic? line = some x ↔
      ∃ p : Parts, p.text = line ∧ UInt64.size ≤ Hex.value p.digits ∧
        x.message = "skipping header with oversized address" ∧
        x.fields = [⟨"addr", String.ofList p.digits, true⟩, ⟨"func", String.ofList p.name, true⟩]) ∧
    ∀ h : Header, h.name ≠ "" → '>' ∉ h.name.toList → Header.parse? h.listed = some h := by
  refine ⟨fun h => Header.parse?_iff_parts, fun p q hp hq => Parts.eq_of_text_eq (hp.trans hq.symm),
    fun p hp hover => ?_, fun x => ?_, fun h => Header.parse?_listed⟩
  · refine Option.eq_none_iff_forall_ne_some.2 fun h hh => ?_
    obtain ⟨q, hq, hvalue, -⟩ := Header.parse?_iff_parts.1 hh
    rw [Parts.eq_of_text_eq (hp.trans hq.symm), hvalue] at hover
    exact Nat.not_le.2 h.address.toNat_lt hover
  · simp only [Listing.diagnostic?_iff_parts, Diagnostic.eq_oversizedHeader_iff]

/-- A header of the lowest address that is too wide, with leading zeros and with a name over two
lines. -/
def wideHeader : Parts where
  before := ['\u2003']
  digits := "00010000000000000000".toList
  between := ['\t']
  name := "operator<\nint".toList
  behind := ['\r']
  blanks_before := List.all_eq_true.1 (by decide)
  numeral_digits := ⟨by decide, List.all_eq_true.1 (by decide)⟩
  gap_between := ⟨by decide, List.all_eq_true.1 (by decide)⟩
  name_ne_nil := by decide
  bracket_notMem := by decide
  blanks_behind := List.all_eq_true.1 (by decide)

/-- Its line is told of and not read, and the highest address that is not too wide is read back. -/
theorem Header.parse?_unique_parts_wideHeader :
    Header.parse? wideHeader.text = none ∧
      (∃ x, Listing.diagnostic? wideHeader.text = some x ∧
        x.fields = [⟨"addr", "00010000000000000000", true⟩, ⟨"func", "operator<\nint", true⟩]) ∧
      Header.parse? (listed ⟨0xFFFFFFFFFFFFFFFF, "a < b"⟩) =
        some ⟨0xFFFFFFFFFFFFFFFF, "a < b"⟩ := by
  have hover : UInt64.size ≤ Hex.value wideHeader.digits := by decide
  obtain ⟨-, -, hwide, htold, hlisted⟩ := Header.parse?_unique_parts wideHeader.text
  refine ⟨hwide wideHeader rfl hover, ⟨.oversizedHeader ⟨_, _⟩, (htold _).2
    ⟨wideHeader, rfl, hover, rfl, rfl⟩, rfl⟩, hlisted ⟨_, _⟩ (by decide) (by decide)⟩

end Symbolizer
