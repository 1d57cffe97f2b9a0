import Symbolizer.Block
import Symbolizer.Proofs.Address
import Symbolizer.Proofs.Text.Scan

/-!
# The grammar of block lines

`BlockLine.Shape` says how a block line is made up, given from its left end. What follows the time
stamp can be read in one way only, from the right (`ofReversed?_reverse_iff`). The time stamp is
then the shortest that leaves blanks before `INFO` (`stamp?_eq_some_iff`). So a line that has the
shape has one `Reading`, and is read as that (`Block.parse?_eq_some_iff`).
-/

namespace Symbolizer

open Text Text.Scan

namespace BlockLine

/-- What opens a block line before `INFO`: a bracket, the time stamp and blanks. -/
def Front (front stamp : List Char) : Prop :=
  ∃ w, Gap w ∧ (stamp ≠ [] ∧ '\n' ∉ stamp) ∧ front = '[' :: stamp ++ w

/-- What a block line says from `INFO` on, with the digits of its two addresses. -/
def Tail (tail start stop : List Char) : Prop :=
  ∃ w₁ w₂ w₃ w₄ w₅ w₆, Gap w₁ ∧ Gap w₂ ∧ Gap w₃ ∧ Gap w₄ ∧ Gap w₅ ∧ Blanks w₆ ∧
    Numeral start ∧ Numeral stop ∧
    tail = "INFO".toList ++ w₁ ++ "rv_emu::cpu]".toList ++ w₂ ++ "Block execution:".toList ++ w₃ ++
      '0' :: 'x' :: start ++ w₄ ++ "to".toList ++ w₅ ++ '0' :: 'x' :: stop ++ w₆

theorem Tail.numeral {tail start stop : List Char} (h : Tail tail start stop) : Numeral start := by
  obtain ⟨_, _, _, _, _, _, -, -, -, -, -, -, hstart, -⟩ := h
  exact hstart

/-- A block line of the given time stamp and the digits of its two addresses. -/
def Shape (line stamp start stop : List Char) : Prop :=
  ∃ front tail, Front front stamp ∧ Tail tail start stop ∧ line = front ++ tail

/-! ## From the right -/

theorem blanks_reverse {w : List Char} : Blanks w.reverse ↔ Blanks w := by simp [Blanks]

theorem gap_reverse {w : List Char} : Gap w.reverse ↔ Gap w := by simp [Gap, blanks_reverse]

theorem numeral_reverse {d : List Char} : Numeral d.reverse ↔ Numeral d := by simp [Numeral]

theorem address?_iff {cs a rest : List Char} :
    address? cs = some (a, rest) ↔
      ∃ d, Numeral d ∧ a = '0' :: 'x' :: d ∧ cs = d.reverse ++ 'x' :: '0' :: rest := by
  simp only [address?, Option.bind_eq_bind, Option.bind_eq_some_iff, Prod.exists, digits?_iff,
    word?_iff, Option.some.injEq, Prod.mk.injEq]
  constructor
  · rintro ⟨d, r, ⟨hd, -, rfl⟩, r', rfl, rfl, rfl⟩
    exact ⟨d.reverse, numeral_reverse.2 hd, rfl, by simp⟩
  · rintro ⟨d, hd, rfl, rfl⟩
    exact ⟨d.reverse, _, ⟨numeral_reverse.2 hd, stops_cons (by decide) _, rfl⟩, rest, rfl,
      by simp⟩

theorem wordBetween?_iff {word cs rest : List Char}
    (h : ∀ rest, Stops isBlank (word.reverse ++ rest)) :
    wordBetween? word cs = some rest ↔ ∃ w, Gap w ∧ cs = w.reverse ++ (word.reverse ++ rest) := by
  simp only [wordBetween?, Option.bind_eq_bind, Option.bind_eq_some_iff, blanks?_iff, word?_iff]
  constructor
  · rintro ⟨_, ⟨w, hw, -, rfl⟩, rfl⟩
    exact ⟨w.reverse, gap_reverse.2 hw, by simp⟩
  · rintro ⟨w, hw, rfl⟩
    exact ⟨_, ⟨w.reverse, gap_reverse.2 hw, h rest, rfl⟩, rfl⟩

/-- From `INFO` on a block line can be read in one way only. -/
theorem ofReversed?_reverse_iff {line : List Char} {l : BlockLine} :
    ofReversed? line.reverse = some l ↔
      ∃ front tail start stop, Tail tail start stop ∧
        stamp? front.reverse = some l.timestamp.toList ∧
        l.start.toList = '0' :: 'x' :: start ∧ l.stop.toList = '0' :: 'x' :: stop ∧
        line = front ++ tail := by
  have hto (rest) : Stops isBlank ("to".toList.reverse ++ rest) := stops_cons (by decide) _
  have hevent (rest) : Stops isBlank (Block.eventWord.reverse ++ rest) := stops_cons (by decide) _
  have hcomponent (rest) : Stops isBlank (Block.componentWord.reverse ++ rest) :=
    stops_cons (by decide) _
  have hinfo (rest) : Stops isBlank ("INFO".toList.reverse ++ rest) := stops_cons (by decide) _
  simp only [ofReversed?, Tail, show "Block execution:".toList = Block.eventWord from rfl,
    show "rv_emu::cpu]".toList = Block.componentWord from rfl]
  -- The words matter no more: only that none of them ends with a blank.
  generalize "to".toList = wto, Block.eventWord = event, Block.componentWord = component,
    "INFO".toList = info at *
  simp only [Option.bind_eq_bind, Option.bind_eq_some_iff, Prod.exists, address?_iff, blanks?_iff,
    wordBetween?_iff hto, wordBetween?_iff hevent, wordBetween?_iff hcomponent,
    wordBetween?_iff hinfo, dropWhile_isBlank_iff, Option.some.injEq]
  constructor
  · rintro ⟨_, _, ⟨stop, hstop, rfl, w₆, hw₆, -, hline⟩, _, ⟨w₅, hw₅, rfl⟩, _, _,
      ⟨_, ⟨w₄, hw₄, -, rfl⟩, start, hstart, rfl, rfl⟩, _, ⟨w₃, hw₃, rfl⟩, _, ⟨w₂, hw₂, rfl⟩,
      lead, ⟨w₁, hw₁, rfl⟩, stamp, hstamp, rfl⟩
    refine ⟨lead.reverse, _, start, stop, ⟨w₁, w₂, w₃, w₄.reverse, w₅, w₆.reverse, hw₁, hw₂, hw₃,
      gap_reverse.2 hw₄, hw₅, blanks_reverse.2 hw₆, hstart, hstop, rfl⟩, by simpa using hstamp,
      String.toList_ofList, String.toList_ofList, ?_⟩
    simpa using congrArg List.reverse hline
  · rintro ⟨front, _, start, stop, ⟨w₁, w₂, w₃, w₄, w₅, w₆, hw₁, hw₂, hw₃, hw₄, hw₅, hw₆, hstart,
      hstop, rfl⟩, hstamp, hs, ht, rfl⟩
    refine ⟨'0' :: 'x' :: stop, _, ⟨stop, hstop, rfl, w₆.reverse, blanks_reverse.2 hw₆,
        (numeral_reverse.2 hstop).stops _, ?_⟩, _, ⟨w₅, hw₅, rfl⟩, '0' :: 'x' :: start, _,
      ⟨_, ⟨w₄.reverse, gap_reverse.2 hw₄, (numeral_reverse.2 hstart).stops _, rfl⟩, start, hstart,
        rfl, rfl⟩, _, ⟨w₃, hw₃, rfl⟩, _, ⟨w₂, hw₂, rfl⟩, front.reverse, ⟨w₁, hw₁, rfl⟩,
      l.timestamp.toList, hstamp, ?_⟩
    · simp
    · rw [← hs, ← ht, String.ofList_toList, String.ofList_toList, String.ofList_toList]

/-! ## The time stamp -/

/-- Whether a text is empty or ends with something else than a blank. -/
def Closed (s : List Char) : Prop := ∀ c ∈ s.getLast?, isBlank c = false

theorem prefix_of_append_eq {s t w v : List Char} (h : t ++ v = s ++ w) (hv : Blanks v)
    (hs : Closed s) : s <+: t := by
  rcases List.append_eq_append_iff.1 h with ⟨x, rfl, rfl⟩ | ⟨x, rfl, rfl⟩
  · rcases List.eq_nil_or_concat x with rfl | ⟨x, c, rfl⟩
    · simp
    · have hblank : isBlank c := hv c (by simp)
      simp [hs c (by simp)] at hblank
  · exact List.prefix_append s x

/-- The blanks at the end of a text, taken together with those behind it. -/
theorem exists_closed (t : List Char) {v : List Char} (hv : Gap v) :
    ∃ s w, Gap w ∧ Closed s ∧ t ++ v = s ++ w := by
  refine ⟨(t.reverse.dropWhile isBlank).reverse, (t.reverse.takeWhile isBlank).reverse ++ v,
    ⟨by simp [hv.1], fun c hc => ?_⟩, ?_, ?_⟩
  · simp only [List.mem_append, List.mem_reverse] at hc
    exact hc.elim List.mem_takeWhile_imp (hv.2 c)
  · simpa [Closed, Stops] using stops_dropWhile isBlank t.reverse
  · rw [← List.append_assoc, ← List.reverse_append, List.takeWhile_append_dropWhile,
      List.reverse_reverse]

theorem stamp?_reverse {s w : List Char} (hw : Gap w) (hs : Closed s) :
    stamp? ('[' :: s ++ w).reverse = (stampIn? s w).filter ('\n' ∉ ·) := by
  have htake : takeSome? isBlank ('[' :: s ++ w).reverse =
      some (w.reverse, s.reverse ++ ['[']) := by
    refine takeSome?_iff.2 ⟨gap_reverse.2 hw, ?_, by simp⟩
    rcases List.eq_nil_or_concat s with rfl | ⟨s, c, rfl⟩
    · exact stops_cons (by decide) _
    · simpa [Stops] using hs c (by simp)
  simp only [stamp?, htake]
  simp

theorem exists_of_stamp? {front stamp : List Char} (h : stamp? front.reverse = some stamp) :
    ∃ s w, Gap w ∧ Closed s ∧ front = '[' :: s ++ w := by
  simp only [stamp?, Option.bind_eq_bind, Option.bind_eq_some_iff, Prod.exists,
    takeSome?_iff] at h
  obtain ⟨w, r, ⟨hw, hr, e⟩, h⟩ := h
  split at h
  · next s hs =>
    obtain rfl : r = s.reverse ++ ['['] := by simpa using congrArg List.reverse hs
    refine ⟨s, w.reverse, gap_reverse.2 hw, fun c hc => ?_, ?_⟩
    · exact hr c (by simp [List.head?_append, Option.mem_def.1 hc])
    · simpa using congrArg List.reverse e
  · cases h

theorem front_of_stampIn? {s w stamp : List Char} (hw : Gap w)
    (h : (stampIn? s w).filter ('\n' ∉ ·) = some stamp) : Front ('[' :: s ++ w) stamp := by
  obtain ⟨h, hn⟩ := Option.filter_eq_some_iff.1 h
  have hn : '\n' ∉ stamp := of_decide_eq_true hn
  match s, w with
  | [], [] | [], [_] => cases h
  | [], c :: d :: w =>
    obtain rfl : [c] = stamp := Option.some.inj h
    exact ⟨d :: w, ⟨by simp, fun x hx => hw.2 x (List.mem_cons_of_mem _ hx)⟩, ⟨by simp, hn⟩, rfl⟩
  | c :: s, w =>
    obtain rfl : c :: s = stamp := by simpa [stampIn?] using h
    exact ⟨w, hw, ⟨by simp, hn⟩, rfl⟩

theorem exists_stampIn?_of_front {s w t : List Char} (hs : Closed s)
    (h : Front ('[' :: s ++ w) t) :
    ∃ stamp, (stampIn? s w).filter ('\n' ∉ ·) = some stamp ∧ stamp <+: t := by
  obtain ⟨v, hv, ⟨hne, hn⟩, e⟩ := h
  have e : t ++ v = s ++ w := by simpa using e.symm
  have hst := prefix_of_append_eq e hv.2 hs
  match s, t, v, w with
  | c :: s, t, v, w => exact ⟨c :: s, by simpa [stampIn?] using fun h => hn (hst.subset h), hst⟩
  | [], c :: t, v, w =>
    obtain rfl : c :: (t ++ v) = w := e
    have hc : '\n' ≠ c := fun h => hn (h ▸ List.mem_cons_self)
    cases htv : t ++ v with
    | nil => exact absurd (List.append_eq_nil_iff.1 htv).2 hv.1
    | cons d more => exact ⟨[c], by simpa [stampIn?, htv] using hc, by simp⟩

/-- The time stamp is the shortest of those that the line can be read with. -/
theorem stamp?_eq_some_iff {front stamp : List Char} :
    stamp? front.reverse = some stamp ↔
      Front front stamp ∧ ∀ t, Front front t → stamp <+: t := by
  constructor
  · intro h
    obtain ⟨s, w, hw, hs, rfl⟩ := exists_of_stamp? h
    rw [stamp?_reverse hw hs] at h
    refine ⟨front_of_stampIn? hw h, fun t ht => ?_⟩
    obtain ⟨stamp', h', hprefix⟩ := exists_stampIn?_of_front hs ht
    exact Option.some.inj (h.symm.trans h') ▸ hprefix
  · rintro ⟨hfront, hmin⟩
    obtain ⟨v, hv, -, rfl⟩ := id hfront
    obtain ⟨s, w, hw, hs, e⟩ := exists_closed stamp hv
    rw [List.cons_append, e, ← List.cons_append] at hfront hmin ⊢
    obtain ⟨stamp', h', hprefix⟩ := exists_stampIn?_of_front hs hfront
    rw [stamp?_reverse hw hs, h',
      hprefix.eq_of_length_le (hmin _ (front_of_stampIn? hw h')).length_le]

/-- There is a time stamp wherever there could be one. -/
theorem exists_stamp?_iff {front : List Char} :
    (∃ stamp, stamp? front.reverse = some stamp) ↔ ∃ stamp, Front front stamp := by
  constructor
  · rintro ⟨stamp, h⟩
    exact ⟨stamp, (stamp?_eq_some_iff.1 h).1⟩
  · rintro ⟨stamp, h⟩
    obtain ⟨v, hv, -, rfl⟩ := id h
    obtain ⟨s, w, hw, hs, e⟩ := exists_closed stamp hv
    rw [List.cons_append, e, ← List.cons_append] at h ⊢
    obtain ⟨stamp', h', -⟩ := exists_stampIn?_of_front hs h
    exact ⟨stamp', by rw [stamp?_reverse hw hs, h']⟩

/-! ## The reading -/

/-- What a block line is read as: of the ways in which it can be made up, the one with the shortest
time stamp. -/
def Reading (line stamp start stop : List Char) : Prop :=
  Shape line stamp start stop ∧ ∀ t s e, Shape line t s e → stamp <+: t

/-- However a block line can be made up, it is read with the digits of its addresses, and with a
time stamp that the one at hand begins with. -/
theorem Shape.exists_ofReversed? {line stamp start stop : List Char}
    (h : Shape line stamp start stop) :
    ∃ l, ofReversed? line.reverse = some l ∧ Shape line l.timestamp.toList start stop ∧
      l.timestamp.toList <+: stamp ∧ l.start = String.ofList ('0' :: 'x' :: start) ∧
      l.stop = String.ofList ('0' :: 'x' :: stop) := by
  obtain ⟨front, tail, hfront, htail, hline⟩ := h
  obtain ⟨shortest, hshortest⟩ := exists_stamp?_iff.2 ⟨stamp, hfront⟩
  obtain ⟨hfront', hmin⟩ := stamp?_eq_some_iff.1 hshortest
  refine ⟨⟨String.ofList shortest, _, _⟩, ?_, ?_, ?_, rfl, rfl⟩
  · rw [ofReversed?_reverse_iff]
    exact ⟨front, tail, start, stop, htail, by rwa [String.toList_ofList], String.toList_ofList,
      String.toList_ofList, hline⟩
  · rw [String.toList_ofList]
    exact ⟨front, tail, hfront', htail, hline⟩
  · rw [String.toList_ofList]
    exact hmin stamp hfront

/-- A line is read as its reading says. -/
theorem ofReversed?_reverse_eq_some_iff {line : List Char} {l : BlockLine} :
    ofReversed? line.reverse = some l ↔
      ∃ start stop, Reading line l.timestamp.toList start stop ∧
        l.start = String.ofList ('0' :: 'x' :: start) ∧
        l.stop = String.ofList ('0' :: 'x' :: stop) := by
  constructor
  · intro h
    obtain ⟨front, tail, start, stop, htail, hstamp, hstart, hstop, hline⟩ :=
      ofReversed?_reverse_iff.1 h
    obtain ⟨hfront, -⟩ := stamp?_eq_some_iff.1 hstamp
    refine ⟨start, stop, ⟨⟨front, tail, hfront, htail, hline⟩, fun t s e hshape => ?_⟩, ?_, ?_⟩
    · obtain ⟨l', h', -, hprefix, -⟩ := hshape.exists_ofReversed?
      obtain rfl : l = l' := Option.some.inj (h.symm.trans h')
      exact hprefix
    · rw [← hstart, String.ofList_toList]
    · rw [← hstop, String.ofList_toList]
  · rintro ⟨start, stop, ⟨hshape, hmin⟩, hstart, hstop⟩
    obtain ⟨l', h', hshape', hprefix, hstart', hstop'⟩ := hshape.exists_ofReversed?
    have hstamp := hprefix.eq_of_length_le (hmin _ _ _ hshape').length_le
    have hl : l' = l := by
      obtain ⟨stamp, _, _⟩ := l
      obtain ⟨stamp', _, _⟩ := l'
      simp only [String.toList_inj] at hstamp
      simp only at hstart hstop hstart' hstop'
      rw [hstamp, hstart', hstop', hstart, hstop]
    rw [h', hl]

theorem Reading.numeral {line stamp start stop : List Char} (h : Reading line stamp start stop) :
    Numeral start := by
  obtain ⟨⟨front, tail, -, htail, -⟩, -⟩ := h
  exact htail.numeral

end BlockLine

/-- The block of a line is that of the line's reading. -/
theorem Block.parse?_eq_some_iff {line : String} {b : Block} :
    Block.parse? line = some b ↔
      ∃ start stop, BlockLine.Reading line.toList b.timestamp.toList start stop ∧
        b.start = Address.ofDigits? start ∧ b.stop = String.ofList ('0' :: 'x' :: stop) := by
  rw [Block.parse?, Option.map_eq_some_iff]
  constructor
  · rintro ⟨l, hl, rfl⟩
    obtain ⟨start, stop, hreading, hstart, hstop⟩ := BlockLine.ofReversed?_reverse_eq_some_iff.1 hl
    refine ⟨start, stop, hreading, ?_, hstop⟩
    rw [← Address.parse?_ofList hreading.numeral.1 hreading.numeral.2, ← hstart]
    rfl
  · rintro ⟨start, stop, hreading, hstart, hstop⟩
    refine ⟨⟨b.timestamp, String.ofList ('0' :: 'x' :: start), b.stop⟩, ?_, ?_⟩
    · exact BlockLine.ofReversed?_reverse_eq_some_iff.2 ⟨start, stop, hreading, rfl, hstop⟩
    · rw [← Address.parse?_ofList hreading.numeral.1 hreading.numeral.2] at hstart
      obtain ⟨stamp, _, _⟩ := b
      simp only at hstart
      rw [hstart]
      rfl

/-! ## The start -/

/-- A line that tells of a block run from the given start, which may be of any size. -/
def Reports (line : String) (start : Nat) : Prop :=
  ∃ stamp digits stop, BlockLine.Shape line.toList stamp digits stop ∧ Hex.value digits = start

/-- From such a line a block is read, with the start if that fits an address. -/
theorem Reports.exists_block {line : String} {start : Nat} (h : Reports line start) :
    ∃ b digits, Block.parse? line = some b ∧ b.start = Address.ofDigits? digits ∧
      Hex.value digits = start := by
  obtain ⟨stamp, digits, stop, hshape, rfl⟩ := h
  obtain ⟨l, hl, -, -, hstart, -⟩ := hshape.exists_ofReversed?
  obtain ⟨front, tail, -, htail, -⟩ := hshape
  refine ⟨l.block, digits, ?_, ?_, rfl⟩
  · rw [Block.parse?, BlockLine.parse?, hl, Option.map_some]
  · rw [← Address.parse?_ofList htail.numeral.1 htail.numeral.2, ← hstart]
    rfl

/-- A line that a block is read from tells of that block. -/
theorem Reports.of_block {line : String} {b : Block} (h : Block.parse? line = some b) :
    ∃ digits, Reports line (Hex.value digits) ∧ b.start = Address.ofDigits? digits := by
  obtain ⟨digits, stop, ⟨hshape, -⟩, hstart, -⟩ := Block.parse?_eq_some_iff.1 h
  exact ⟨digits, ⟨_, digits, stop, hshape, rfl⟩, hstart⟩

theorem Reports.of_start {line : String} {b : Block} {a : Address}
    (h : Block.parse? line = some b) (ha : b.start = some a) : Reports line a.toNat := by
  obtain ⟨digits, hreports, hstart⟩ := Reports.of_block h
  rwa [Address.ofDigits?_eq_some_iff.1 (hstart.symm.trans ha)] at hreports

end Symbolizer
