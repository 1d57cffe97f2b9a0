import Mathlib.Data.List.DropRight
import Symbolizer.Proofs.Block

/-!
# The parts of a block line

`Parts` are all the pieces that a block line is put together from, the blanks between its words
included. Two ways of putting one line together can differ in one respect only: how the text before
`INFO` is shared out between the time stamp and the blanks behind it (`Parts.eq_of_text_eq`). The
least that the time stamp can be is `shortestStamp`, and a line is read with that one
(`Block.parse?_shortest_parts`).
-/

namespace Symbolizer

open Text Text.Scan

namespace BlockLine

/-- What a block line is put together from, from `INFO` on: the digits of its two addresses, and
the blanks behind each word. -/
@[ext]
structure Ending where
  start : List Char
  stop : List Char
  afterLevel : List Char
  afterComponent : List Char
  afterEvent : List Char
  afterStart : List Char
  afterTo : List Char
  afterStop : List Char
  numeral_start : Numeral start
  numeral_stop : Numeral stop
  gap_afterLevel : Gap afterLevel
  gap_afterComponent : Gap afterComponent
  gap_afterEvent : Gap afterEvent
  gap_afterStart : Gap afterStart
  gap_afterTo : Gap afterTo
  blanks_afterStop : Blanks afterStop

/-- The characters of a block line from `INFO` on. -/
def Ending.chars (e : Ending) : List Char :=
  "INFO".toList ++ e.afterLevel ++ "rv_emu::cpu]".toList ++ e.afterComponent ++
    "Block execution:".toList ++ e.afterEvent ++ '0' :: 'x' :: e.start ++ e.afterStart ++
    "to".toList ++ e.afterTo ++ '0' :: 'x' :: e.stop ++ e.afterStop

/-- What a block line is put together from. -/
structure Parts where
  timestamp : List Char
  afterTimestamp : List Char
  ending : Ending
  timestamp_ne_nil : timestamp ≠ []
  lineFeed_notMem : '\n' ∉ timestamp
  gap_afterTimestamp : Gap afterTimestamp

namespace Parts

/-- What stands between the bracket and `INFO`. -/
def lead (p : Parts) : List Char := p.timestamp ++ p.afterTimestamp

/-- The line that is put together. -/
def text (p : Parts) : String := String.ofList ('[' :: p.lead ++ p.ending.chars)

end Parts

theorem Ending.tail_chars (e : Ending) : Tail e.chars e.start e.stop :=
  ⟨_, _, _, _, _, _, e.gap_afterLevel, e.gap_afterComponent, e.gap_afterEvent, e.gap_afterStart,
    e.gap_afterTo, e.blanks_afterStop, e.numeral_start, e.numeral_stop, rfl⟩

/-- A line has a shape exactly if it can be put together from parts of that shape. -/
theorem shape_iff {line : String} {stamp start stop : List Char} :
    Shape line.toList stamp start stop ↔
      ∃ p : Parts, p.text = line ∧ p.timestamp = stamp ∧ p.ending.start = start ∧
        p.ending.stop = stop := by
  constructor
  · rintro ⟨front, tail, ⟨w, hw, ⟨hne, hn⟩, rfl⟩, ⟨w₁, w₂, w₃, w₄, w₅, w₆, hw₁, hw₂, hw₃, hw₄, hw₅,
      hw₆, hstart, hstop, rfl⟩, hline⟩
    refine ⟨⟨stamp, w, ⟨start, stop, w₁, w₂, w₃, w₄, w₅, w₆, hstart, hstop, hw₁, hw₂, hw₃, hw₄, hw₅,
      hw₆⟩, hne, hn, hw⟩, ?_, rfl, rfl, rfl⟩
    rw [← String.ofList_toList (s := line), hline]
    rfl
  · rintro ⟨p, rfl, rfl, rfl, rfl⟩
    exact ⟨'[' :: p.lead, p.ending.chars, ⟨p.afterTimestamp, p.gap_afterTimestamp,
      ⟨p.timestamp_ne_nil, p.lineFeed_notMem⟩, rfl⟩, p.ending.tail_chars, String.toList_ofList⟩

/-! ## One way from the right -/

theorem between_inj {word w w' rest rest' : List Char} (hw : Gap w) (hw' : Gap w')
    (hword : ∀ rest, Stops isBlank (word.reverse ++ rest))
    (h : w.reverse ++ (word.reverse ++ rest) = w'.reverse ++ (word.reverse ++ rest')) :
    w = w' ∧ rest = rest' := by
  obtain ⟨hblanks, hrest⟩ := append_inj_of_stops h (gap_reverse.2 hw).2 (gap_reverse.2 hw').2
    (hword rest) (hword rest')
  exact ⟨List.reverse_inj.1 hblanks, List.append_cancel_left hrest⟩

theorem address_inj {d d' rest rest' : List Char} (hd : Numeral d) (hd' : Numeral d')
    (h : d.reverse ++ 'x' :: '0' :: rest = d'.reverse ++ 'x' :: '0' :: rest') :
    d = d' ∧ rest = rest' := by
  have hx (rest : List Char) : Stops Hex.isDigit ('x' :: '0' :: rest) := stops_cons (by decide) _
  obtain ⟨hdigits, hrest⟩ := append_inj_of_stops h (numeral_reverse.2 hd).2
    (numeral_reverse.2 hd').2 (hx rest) (hx rest')
  exact ⟨List.reverse_inj.1 hdigits, (List.append_right_inj ['x', '0']).1 hrest⟩

/-- From its right end a text of words, addresses and blanks can be taken apart in one way only, if
no word ends with a blank. -/
theorem Ending.append_inj {level component event link front front' : List Char} {e e' : Ending}
    (hlevel : ∀ rest, Stops isBlank (level.reverse ++ rest))
    (hcomponent : ∀ rest, Stops isBlank (component.reverse ++ rest))
    (hevent : ∀ rest, Stops isBlank (event.reverse ++ rest))
    (hlink : ∀ rest, Stops isBlank (link.reverse ++ rest))
    (h : front ++ (level ++ e.afterLevel ++ component ++ e.afterComponent ++ event ++
          e.afterEvent ++ '0' :: 'x' :: e.start ++ e.afterStart ++ link ++ e.afterTo ++
          '0' :: 'x' :: e.stop ++ e.afterStop) =
      front' ++ (level ++ e'.afterLevel ++ component ++ e'.afterComponent ++ event ++
          e'.afterEvent ++ '0' :: 'x' :: e'.start ++ e'.afterStart ++ link ++ e'.afterTo ++
          '0' :: 'x' :: e'.stop ++ e'.afterStop)) :
    front = front' ∧ e = e' := by
  have h := congrArg List.reverse h
  simp only [List.reverse_append, List.reverse_cons, List.append_assoc, List.cons_append,
    List.nil_append] at h
  obtain ⟨hafterStop, h⟩ := append_inj_of_stops h (blanks_reverse.2 e.blanks_afterStop)
    (blanks_reverse.2 e'.blanks_afterStop) ((numeral_reverse.2 e.numeral_stop).stops _)
    ((numeral_reverse.2 e'.numeral_stop).stops _)
  obtain ⟨hstop, h⟩ := address_inj e.numeral_stop e'.numeral_stop h
  obtain ⟨hafterTo, h⟩ := between_inj e.gap_afterTo e'.gap_afterTo hlink h
  obtain ⟨hafterStart, h⟩ := append_inj_of_stops h (gap_reverse.2 e.gap_afterStart).2
    (gap_reverse.2 e'.gap_afterStart).2 ((numeral_reverse.2 e.numeral_start).stops _)
    ((numeral_reverse.2 e'.numeral_start).stops _)
  obtain ⟨hstart, h⟩ := address_inj e.numeral_start e'.numeral_start h
  obtain ⟨hafterEvent, h⟩ := between_inj e.gap_afterEvent e'.gap_afterEvent hevent h
  obtain ⟨hafterComponent, h⟩ :=
    between_inj e.gap_afterComponent e'.gap_afterComponent hcomponent h
  obtain ⟨hafterLevel, h⟩ := between_inj e.gap_afterLevel e'.gap_afterLevel hlevel h
  rw [List.reverse_inj] at hafterStop hafterStart h
  exact ⟨h, Ending.ext hstart hstop hafterLevel hafterComponent hafterEvent hafterStart hafterTo
    hafterStop⟩

theorem Ending.append_chars_inj {front front' : List Char} {e e' : Ending}
    (h : front ++ e.chars = front' ++ e'.chars) : front = front' ∧ e = e' :=
  append_inj (fun _ => stops_cons (by decide) _) (fun _ => stops_cons (by decide) _)
    (fun _ => stops_cons (by decide) _) (fun _ => stops_cons (by decide) _) h

/-- The parts of one line agree on everything but where the time stamp ends. -/
theorem Parts.eq_of_text_eq {p q : Parts} (h : p.text = q.text) :
    p.lead = q.lead ∧ p.ending = q.ending := by
  obtain ⟨hfront, hending⟩ := Ending.append_chars_inj (String.ofList_inj.1 h)
  exact ⟨List.cons_inj_right _ |>.1 hfront, hending⟩

/-! ## The shortest time stamp -/

/-- The text between the bracket and `INFO` without the blanks at its end, or the first character of
a text of blanks. -/
def shortestStamp (lead : List Char) : List Char :=
  let stamp := lead.rdropWhile isBlank
  if stamp = [] then lead.take 1 else stamp

theorem rdropWhile_append_of_blanks (s : List Char) {w : List Char} (hw : Blanks w) :
    (s ++ w).rdropWhile isBlank = s.rdropWhile isBlank := by
  rw [List.rdropWhile, List.reverse_append, List.dropWhile_append_of_pos (blanks_reverse.2 hw),
    List.rdropWhile]

/-- No time stamp of a line is shorter. -/
theorem Parts.shortestStamp_prefix (p : Parts) : shortestStamp p.lead <+: p.timestamp := by
  rw [shortestStamp, lead, rdropWhile_append_of_blanks _ p.gap_afterTimestamp.2]
  split
  · rw [List.take_append_of_le_length (List.length_pos_of_ne_nil p.timestamp_ne_nil)]
    exact List.take_prefix 1 _
  · exact List.rdropWhile_prefix isBlank _

/-- What stands behind the shortest time stamp is blank. -/
theorem exists_blanks_of_shortestStamp (lead : List Char) :
    ∃ w, Blanks w ∧ lead = shortestStamp lead ++ w := by
  rw [shortestStamp]
  split
  · next h =>
    refine ⟨lead.drop 1, fun c hc => ?_, (List.take_append_drop 1 lead).symm⟩
    exact List.rdropWhile_eq_nil_iff.1 h c (List.mem_of_mem_drop hc)
  · exact ⟨lead.rtakeWhile isBlank, fun c hc => List.mem_rtakeWhile_imp hc,
      (List.rdropWhile_append_rtakeWhile).symm⟩

theorem shortestStamp_ne_nil {lead : List Char} (h : lead ≠ []) : shortestStamp lead ≠ [] := by
  rw [shortestStamp]
  split
  · simpa using h
  · assumption

/-- The same line, put together with the shortest time stamp. -/
theorem Parts.exists_shortest (p : Parts) :
    ∃ q : Parts, q.text = p.text ∧ q.timestamp = shortestStamp p.lead ∧ q.ending = p.ending := by
  obtain ⟨w, hw, hlead⟩ := exists_blanks_of_shortestStamp p.lead
  have hshort := p.shortestStamp_prefix
  have hne : w ≠ [] := by
    -- Otherwise the shortest time stamp would be all of the text, and longer than the one at hand.
    rintro rfl
    have hlength := hshort.length_le
    have hpos := List.length_pos_of_ne_nil p.gap_afterTimestamp.1
    rw [← List.append_nil (shortestStamp p.lead), ← hlead, lead, List.length_append] at hlength
    omega
  refine ⟨⟨shortestStamp p.lead, w, p.ending, shortestStamp_ne_nil ?_,
    fun hmem => p.lineFeed_notMem (hshort.subset hmem), ⟨hne, hw⟩⟩, ?_, rfl, rfl⟩
  · simp [lead, p.timestamp_ne_nil]
  · rw [text, text, lead, ← hlead]

theorem reading_iff {line : String} {stamp start stop : List Char} :
    Reading line.toList stamp start stop ↔
      ∃ p : Parts, p.text = line ∧ p.timestamp = shortestStamp p.lead ∧ p.timestamp = stamp ∧
        p.ending.start = start ∧ p.ending.stop = stop := by
  constructor
  · rintro ⟨hshape, hmin⟩
    obtain ⟨p, rfl, rfl, hstart, hstop⟩ := shape_iff.1 hshape
    obtain ⟨q, hq, hstamp, -⟩ := p.exists_shortest
    have hshort := hmin _ _ _ (shape_iff.2 ⟨q, hq, rfl, rfl, rfl⟩)
    rw [hstamp] at hshort
    exact ⟨p, rfl, hshort.eq_of_length_le p.shortestStamp_prefix.length_le, rfl, hstart, hstop⟩
  · rintro ⟨p, rfl, hstamp, rfl, rfl, rfl⟩
    refine ⟨shape_iff.2 ⟨p, rfl, rfl, rfl, rfl⟩, fun t s e hshape => ?_⟩
    obtain ⟨q, hq, rfl, -⟩ := shape_iff.1 hshape
    rw [hstamp, ← (Parts.eq_of_text_eq hq).1]
    exact q.shortestStamp_prefix

end BlockLine

open BlockLine (Parts shortestStamp)

theorem Address.eq_ofDigits?_iff {a : Option Address} {digits : List Char} :
    a = ofDigits? digits ↔ a.map UInt64.toNat =
      if Hex.value digits < UInt64.size then some (Hex.value digits) else none := by
  rw [← map_toNat_ofDigits?]
  exact (Option.map_inj_right fun _ _ => UInt64.toNat_inj.1).symm

/-- A line is read as the block of the parts with the shortest time stamp. -/
theorem Block.parse?_iff_shortest {line : String} {b : Block} :
    Block.parse? line = some b ↔
      ∃ p : Parts, p.text = line ∧ p.timestamp = shortestStamp p.lead ∧
        b.timestamp = String.ofList p.timestamp ∧ b.stop = "0x" ++ String.ofList p.ending.stop ∧
        b.start = Address.ofDigits? p.ending.start := by
  have hwritten (digits : List Char) :
      String.ofList ('0' :: 'x' :: digits) = "0x" ++ String.ofList digits :=
    @String.ofList_append ['0', 'x'] digits
  simp only [Block.parse?_eq_some_iff, BlockLine.reading_iff, hwritten]
  constructor
  · rintro ⟨_, _, ⟨p, hp, hshortest, hstamp, rfl, rfl⟩, hstart, hstop⟩
    exact ⟨p, hp, hshortest, by rw [hstamp, String.ofList_toList], hstop, hstart⟩
  · rintro ⟨p, hp, hshortest, hstamp, hstop, hstart⟩
    exact ⟨_, _, ⟨p, hp, hshortest, by rw [hstamp, String.toList_ofList], rfl, rfl⟩, hstart, hstop⟩

theorem Block.isSome_parse?_iff {line : String} :
    (Block.parse? line).isSome ↔ ∃ p : Parts, p.text = line := by
  constructor
  · intro h
    obtain ⟨b, hb⟩ := Option.isSome_iff_exists.1 h
    obtain ⟨p, hp, -⟩ := Block.parse?_iff_shortest.1 hb
    exact ⟨p, hp⟩
  · rintro ⟨p, hp⟩
    obtain ⟨q, hq, hshortest, -⟩ := p.exists_shortest
    rw [← (Parts.eq_of_text_eq hq).1] at hshortest
    exact Option.isSome_iff_exists.2 ⟨⟨_, _, _⟩, Block.parse?_iff_shortest.2
      ⟨q, hq.trans hp, hshortest, rfl, rfl, rfl⟩⟩

/-- A line is read as a block exactly if it can be put together as a block line. Two ways to do so
agree on everything but where the time stamp ends. The block has the shortest time stamp, its stop
as it is written, and its start unless that is too wide. -/
theorem Block.parse?_shortest_parts (line : String) :
    ((Block.parse? line).isSome ↔ ∃ p : Parts, p.text = line) ∧
      (∀ p q : Parts, p.text = line → q.text = line → p.lead = q.lead ∧ p.ending = q.ending) ∧
      ∀ b, Block.parse? line = some b ↔
        ∃ p : Parts, p.text = line ∧ p.timestamp = shortestStamp p.lead ∧
          (∀ q : Parts, q.text = line → p.timestamp <+: q.timestamp) ∧
          b.timestamp = String.ofList p.timestamp ∧
          b.stop = "0x" ++ String.ofList p.ending.stop ∧
          b.start.map UInt64.toNat =
            if Hex.value p.ending.start < UInt64.size then some (Hex.value p.ending.start)
            else none := by
  refine ⟨Block.isSome_parse?_iff, fun p q hp hq => ?_, fun b => ?_⟩
  · exact Parts.eq_of_text_eq (hp.trans hq.symm)
  · rw [Block.parse?_iff_shortest]
    refine exists_congr fun p => and_congr_right fun hp => and_congr_right fun hshortest => ?_
    have hmin (q : Parts) (hq : q.text = line) : p.timestamp <+: q.timestamp := by
      rw [hshortest, (Parts.eq_of_text_eq (hp.trans hq.symm)).1]
      exact q.shortestStamp_prefix
    rw [and_iff_right hmin, Address.eq_ofDigits?_iff]

/-- A line with nothing but blanks in its bracket, among them an em space, and with more digits than
an address has. -/
def blankBracket (timestamp afterTimestamp : List Char) (hne : timestamp ≠ [])
    (hn : '\n' ∉ timestamp) (hgap : Gap afterTimestamp) : Parts where
  timestamp := timestamp
  afterTimestamp := afterTimestamp
  ending :=
    have gap {c : Char} (hc : isBlank c) : Gap [c] := ⟨List.cons_ne_nil c [], by simpa [Blanks]⟩
    { start := "0000000000000000001F".toList
      stop := "aB".toList
      afterLevel := [' ']
      afterComponent := ['\t']
      afterEvent := ['\n']
      afterStart := [' ']
      afterTo := ['\u00A0']
      afterStop := []
      numeral_start := ⟨by decide, List.all_eq_true.1 (by decide)⟩
      numeral_stop := ⟨by decide, List.all_eq_true.1 (by decide)⟩
      gap_afterLevel := gap (by decide)
      gap_afterComponent := gap (by decide)
      gap_afterEvent := gap (by decide)
      gap_afterStart := gap (by decide)
      gap_afterTo := gap (by decide)
      blanks_afterStop := by simp [Blanks] }
  timestamp_ne_nil := hne
  lineFeed_notMem := hn
  gap_afterTimestamp := hgap

/-- Its bracket can be shared out in two ways, and it is read with the shorter time stamp. -/
theorem Block.parse?_shortest_parts_blankBracket :
    ∃ p q : Parts, p.timestamp = ['\u2003'] ∧ q.timestamp = ['\u2003', '\t'] ∧ p.text = q.text ∧
      p.lead = q.lead ∧ p.ending = q.ending ∧
      Block.parse? q.text = some ⟨"\u2003", some 0x1F, "0xaB"⟩ := by
  let p := blankBracket ['\u2003'] ['\t', ' '] (by decide) (by decide)
    ⟨by decide, List.all_eq_true.1 (by decide)⟩
  let q := blankBracket ['\u2003', '\t'] [' '] (by decide) (by decide)
    ⟨by decide, List.all_eq_true.1 (by decide)⟩
  obtain ⟨-, hunique, hiff⟩ := Block.parse?_shortest_parts q.text
  obtain ⟨hlead, hending⟩ := hunique p q rfl rfl
  have hshortest : p.timestamp = shortestStamp p.lead := by decide
  refine ⟨p, q, rfl, rfl, rfl, hlead, hending, (hiff _).2 ⟨p, rfl, hshortest, ?_, rfl, rfl, ?_⟩⟩
  · intro r hr
    rw [hshortest, (hunique p r rfl hr).1]
    exact r.shortestStamp_prefix
  · decide

end Symbolizer
