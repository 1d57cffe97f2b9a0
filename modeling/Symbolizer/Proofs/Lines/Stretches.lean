import Symbolizer.Proofs.Lines.Reading
import Symbolizer.Proofs.Text.Scan

/-!
# Stretches of an input

A stretch of an input is what a reader takes for one answer: the bytes of a line, and what closes
them, be it the end of the line, an end of the input or a fault. The end of a script is an end of
the input too. An LF that belongs to the CR before it, whatever faults and ends of input stand
between the two, opens a stretch and is no part of its line.

Every input falls into stretches in exactly one way (`exists_falls`, `Falls.unique`). A reader
answers stretch by stretch, and then with none (`Reader.firstAnswers_of_stretches`): with the line,
if the stretch is one; with the fault, and then its bytes are lost; at an end of input with the
bytes as a line, or with none if there are no bytes.
-/

namespace Symbolizer

open Reader (lineFeed carriageReturn)

/-- What closes a stretch. -/
inductive Close
  | lineFeed
  | carriageReturn
  | ended
  | fault (fault : Fault)
  deriving DecidableEq, Repr

/-- How a close shows in an input. -/
def Close.mark : Close → Mark
  | lineFeed => .byte Reader.lineFeed
  | carriageReturn => .byte Reader.carriageReturn
  | ended => .ended
  | fault f => .fault f

/-- The part of an input that one answer is about. -/
@[ext]
structure Stretch where
  /-- Whether an LF stands in front that belongs to the CR before it. -/
  joined : Bool := false
  bytes : List UInt8
  close : Close
  plain : Plain bytes

namespace Stretch

/-- The marks of a stretch. -/
def marks (s : Stretch) : List Mark :=
  (if s.joined then [.byte lineFeed] else []) ++ (s.bytes.map .byte ++ [s.close.mark])

/-- What a reader answers to a stretch. -/
def answer (s : Stretch) : Option (Except Fault String) :=
  match s.close with
  | .lineFeed | .carriageReturn => some (.ok (Text.Tolerant.decode s.bytes))
  | .ended => if s.bytes = [] then none else some (.ok (Text.Tolerant.decode s.bytes))
  | .fault f => some (.error f)

end Stretch

/-- The byte of a mark, if it is one. -/
def Mark.byte? : Mark → Option UInt8
  | byte b => some b
  | _ => none

/-- The last byte among some marks, whatever faults and ends stand behind it. -/
def lastByte? (ms : List Mark) : Option UInt8 := (ms.filterMap Mark.byte?).getLast?

/-- Whether an input, with `past` before it, falls into the given stretches. An LF at the front of a
stretch belongs to the last byte before it exactly if that is a CR. -/
inductive Falls : List Mark → List Mark → List Stretch → Prop
  | nil {past : List Mark} : Falls past [] []
  | cons {past ms : List Mark} {s : Stretch} {ss : List Stretch}
      (hjoined : s.joined ↔
        s.marks.head? = some (.byte lineFeed) ∧ lastByte? past = some carriageReturn)
      (h : Falls (past ++ s.marks) ms ss) : Falls past (s.marks ++ ms) (s :: ss)

/-! ## One way to fall into stretches -/

theorem lastByte?_append (ms more : List Mark) :
    lastByte? (ms ++ more) = (lastByte? more).or (lastByte? ms) := by
  rw [lastByte?, List.filterMap_append, List.getLast?_append, lastByte?, lastByte?]

theorem lastByte?_concat (ms : List Mark) (b : UInt8) : lastByte? (ms ++ [.byte b]) = some b := by
  rw [lastByte?_append]
  rfl

theorem Stretch.marks_of_joined {s : Stretch} (h : s.joined = true) :
    s.marks = .byte lineFeed :: (s.bytes.map .byte ++ [s.close.mark]) := by
  rw [marks, if_pos h]
  rfl

theorem Stretch.marks_of_not_joined {s : Stretch} (h : s.joined = false) :
    s.marks = s.bytes.map .byte ++ [s.close.mark] := by
  rw [marks, if_neg (by simp [h])]
  rfl

theorem falls_nil_iff {past ms : List Mark} : Falls past ms [] ↔ ms = [] := by
  constructor
  · rintro ⟨⟩
    rfl
  · rintro rfl
    exact .nil

theorem falls_cons_iff {past ms : List Mark} {s : Stretch} {ss : List Stretch} :
    Falls past ms (s :: ss) ↔
      ∃ behind, ms = s.marks ++ behind ∧
        (s.joined ↔
          s.marks.head? = some (.byte lineFeed) ∧ lastByte? past = some carriageReturn) ∧
        Falls (past ++ s.marks) behind ss := by
  constructor
  · rintro ⟨⟩
    exact ⟨_, rfl, by assumption, by assumption⟩
  · rintro ⟨behind, rfl, hjoined, h⟩
    exact .cons hjoined h

/-- A close by itself is a stretch, but for an LF behind a CR. -/
theorem Falls.cons_close {past ms : List Mark} {ss : List Stretch} (close : Close)
    (h : Falls (past ++ [close.mark]) ms ss)
    (hclose : close = .lineFeed → lastByte? past ≠ some carriageReturn) :
    Falls past (close.mark :: ms) ({ bytes := [], close, plain := Plain.nil } :: ss) := by
  refine Falls.cons (s := { bytes := [], close, plain := Plain.nil }) ⟨by simp, ?_⟩ h
  rintro ⟨hhead, hlast⟩
  cases close with
  | lineFeed => exact absurd hlast (hclose rfl)
  | carriageReturn => exact absurd hhead (by decide)
  | ended => cases hhead
  | fault f => cases hhead

/-- Another byte can be put in front of a stretch, unless it closes one itself. -/
theorem Falls.exists_cons_byte {past ms : List Mark} {s : Stretch} {ss : List Stretch} {b : UInt8}
    (h : Falls (past ++ [.byte b]) ms (s :: ss)) (hreturn : b ≠ carriageReturn)
    (hfeed : b = lineFeed → lastByte? past = some carriageReturn) :
    ∃ s', Falls past (.byte b :: ms) (s' :: ss) := by
  obtain ⟨behind, rfl, hjoined, h⟩ := falls_cons_iff.1 h
  have hnot : s.joined = false := by
    refine Bool.eq_false_iff.2 fun hs => hreturn ?_
    simpa [lastByte?_concat] using (hjoined.1 hs).2
  have put {s' : Stretch} (hmarks : s'.marks = .byte b :: s.marks)
      (hjoined' : s'.joined ↔ b = lineFeed) :
      Falls past (.byte b :: (s.marks ++ behind)) (s' :: ss) := by
    refine falls_cons_iff.2 ⟨behind, by rw [hmarks, List.cons_append], ?_, ?_⟩
    · rw [hjoined', hmarks, List.head?_cons, Option.some.injEq, Mark.byte.injEq]
      exact ⟨fun hb => ⟨hb, hfeed hb⟩, And.left⟩
    · rwa [hmarks, List.append_cons]
  by_cases hb : b = lineFeed
  · refine ⟨{ s with joined := true }, put ?_ (by simp [hb])⟩
    rw [Stretch.marks_of_joined rfl, Stretch.marks_of_not_joined hnot, hb]
  · refine ⟨{ s with bytes := b :: s.bytes, plain := plain_cons.2 ⟨⟨hb, hreturn⟩, s.plain⟩ },
      put ?_ (by simp [hb, hnot])⟩
    simp [Stretch.marks, hnot]

/-- An input that has an end falls into stretches. -/
theorem exists_falls (past ms : List Mark) : ∃ ss, Falls past (ms ++ [.ended]) ss := by
  induction ms generalizing past with
  | nil => exact ⟨_, Falls.cons_close .ended .nil (by simp)⟩
  | cons m ms ih =>
    obtain ⟨ss, hss⟩ := ih (past ++ [m])
    cases m with
    | ended => exact ⟨_, Falls.cons_close .ended hss (by simp)⟩
    | fault f => exact ⟨_, Falls.cons_close (.fault f) hss (by simp)⟩
    | byte b =>
      by_cases hreturn : b = carriageReturn
      · subst hreturn
        exact ⟨_, Falls.cons_close .carriageReturn hss (by simp)⟩
      by_cases hfeed : b = lineFeed ∧ lastByte? past ≠ some carriageReturn
      · obtain ⟨rfl, hpast⟩ := hfeed
        exact ⟨_, Falls.cons_close .lineFeed hss fun _ => hpast⟩
      · cases ss with
        | nil => simp [falls_nil_iff] at hss
        | cons s ss =>
          obtain ⟨s', hs'⟩ := hss.exists_cons_byte hreturn fun hb =>
            Classical.byContradiction fun hpast => hfeed ⟨hb, hpast⟩
          exact ⟨s' :: ss, hs'⟩

/-- Whether a mark belongs to a line. -/
def Mark.inLine : Mark → Bool
  | byte b => Reader.inLine b
  | _ => false

theorem Close.inLine_mark (close : Close) : close.mark.inLine = false := by
  cases close <;> rfl

theorem Close.eq_of_mark_eq {c d : Close} (h : c.mark = d.mark) : c = d := by
  cases c <;> cases d <;> first | rfl | (cases h; rfl) | exact absurd h (by decide) | cases h

/-- The marks of a stretch show where it ends. -/
theorem Stretch.append_marks_inj {s t : Stretch} {ms ms' : List Mark}
    (hjoined : s.joined = t.joined) (h : s.marks ++ ms = t.marks ++ ms') : s = t ∧ ms = ms' := by
  have hbytes (r : Stretch) : ∀ m ∈ r.bytes.map Mark.byte, m.inLine := by
    intro m hm
    obtain ⟨b, hb, rfl⟩ := List.mem_map.1 hm
    exact r.plain.inLine b hb
  have hclose (r : Stretch) (ms : List Mark) :
      ∀ m ∈ (r.close.mark :: ms).head?, m.inLine = false := by
    rintro _ ⟨⟩
    exact r.close.inLine_mark
  simp only [marks, hjoined, List.append_assoc, List.append_cancel_left_eq] at h
  obtain ⟨hline, h⟩ := Text.Scan.append_inj_of_stops h (hbytes s) (hbytes t) (hclose s ms)
    (hclose t ms')
  obtain ⟨hmark, rfl⟩ := List.cons.inj h
  have hline := (List.map_injective_iff.2 fun _ _ => Mark.byte.inj) hline
  exact ⟨Stretch.ext hjoined hline (Close.eq_of_mark_eq hmark), rfl⟩

theorem Stretch.head?_marks_append (s : Stretch) (ms : List Mark) :
    (s.marks ++ ms).head? = s.marks.head? := by
  rw [List.head?_append_of_ne_nil]
  simp [marks]

/-- An input falls into stretches in one way only. -/
theorem Falls.unique {past ms : List Mark} {ss ts : List Stretch} (hs : Falls past ms ss)
    (ht : Falls past ms ts) : ss = ts := by
  induction ss generalizing past ms ts with
  | nil =>
    obtain rfl := falls_nil_iff.1 hs
    cases ts with
    | nil => rfl
    | cons t ts =>
      obtain ⟨behind, hbehind, -⟩ := falls_cons_iff.1 ht
      simp [Stretch.marks] at hbehind
  | cons s ss ih =>
    obtain ⟨behind, rfl, hjoined, hs⟩ := falls_cons_iff.1 hs
    cases ts with
    | nil => simp [falls_nil_iff, Stretch.marks] at ht
    | cons t ts =>
      obtain ⟨behind', heq, hjoined', ht⟩ := falls_cons_iff.1 ht
      rw [← s.head?_marks_append behind, heq, t.head?_marks_append behind', ← hjoined'] at hjoined
      obtain ⟨rfl, rfl⟩ := Stretch.append_marks_inj (Bool.eq_iff_iff.2 hjoined) heq
      rw [ih hs ht]

/-! ## Reading stretch by stretch -/

namespace MarkReader

/-- Where no CR stands before a stretch that nothing joins to it, its answer is given. -/
theorem nextFrom_stretch {bytes : List UInt8} (hplain : Plain bytes) (close : Close)
    (ms : List Mark) :
    nextFrom none false (bytes.map .byte ++ close.mark :: ms) =
      (Stretch.answer { bytes, close, plain := hplain },
        { marks := ms, afterReturn := close = .carriageReturn }) := by
  have begun (hne : bytes ≠ []) (ms : List Mark) :
      nextFrom none false (bytes.map .byte ++ ms) = nextFrom (some bytes) false ms :=
    nextFrom_inLine hplain.inLine hne none ms
  cases close with
  | lineFeed => exact nextFrom_lineEnd hplain.inLine (e := lineFeed) rfl none ms
  | carriageReturn => exact nextFrom_lineEnd hplain.inLine (e := carriageReturn) rfl none ms
  | ended =>
    by_cases hne : bytes = []
    · subst hne
      rfl
    · rw [begun hne, Stretch.answer, if_neg hne]
      rfl
  | fault f =>
    by_cases hne : bytes = []
    · subst hne
      rfl
    · rw [begun hne]
      rfl

/-- Behind anything but a CR, the last byte of a line and its close is a CR if that is the close. -/
theorem lastByte?_line_iff {past : List Mark} (hpast : lastByte? past ≠ some carriageReturn)
    {bytes : List UInt8} (hplain : Plain bytes) (close : Close) :
    lastByte? (past ++ (bytes.map .byte ++ [close.mark])) = some carriageReturn ↔
      close = .carriageReturn := by
  have hbytes : lastByte? (bytes.map .byte) = bytes.getLast? := by
    simp [lastByte?, List.filterMap_map, Function.comp_def, Mark.byte?]
  have hopen : (bytes.getLast?.or (lastByte? past)) ≠ some carriageReturn := by
    cases hlast : bytes.getLast? with
    | none => exact hpast
    | some b => exact fun h => (hplain b (List.mem_of_getLast? hlast)).2 (Option.some.inj h)
  rw [lastByte?_append, lastByte?_append, hbytes]
  cases close with
  | lineFeed =>
    exact iff_of_false (show some lineFeed ≠ some carriageReturn by decide) (by decide)
  | carriageReturn => exact iff_of_true rfl rfl
  | ended => exact iff_of_false hopen (by decide)
  | fault f => exact iff_of_false hopen (by simp)

/-- A reader of some marks that remembers the last byte before them, if that was a CR. -/
def behind (past ms : List Mark) : MarkReader where
  marks := ms
  afterReturn := lastByte? past = some carriageReturn

/-- That a CR stands before a byte matters to an LF only. -/
theorem nextFrom_true_byte {b : UInt8} (hb : b ≠ lineFeed) (ms : List Mark) :
    nextFrom none true (.byte b :: ms) = nextFrom none false (.byte b :: ms) := by
  simp [nextFrom, hb]

/-- Of what stands before a byte nothing is remembered behind it. -/
theorem behind_append_byte (past : List Mark) (b : UInt8) (line ms : List Mark) :
    behind (past ++ .byte b :: line) ms = behind (.byte b :: line) ms := by
  have hlast : lastByte? (.byte b :: line) =
      some ((b :: line.filterMap Mark.byte?).getLast (by simp)) :=
    List.getLast?_eq_some_getLast _
  rw [behind, behind, lastByte?_append, hlast, Option.some_or]

/-- Behind a fault or an end of the input everything is remembered. -/
theorem behind_append_silent (past : List Mark) {m : Mark} (hm : m.byte? = none) (ms : List Mark) :
    behind (past ++ [m]) ms = behind past ms := by
  have hlast : lastByte? [m] = none := by simp [lastByte?, hm]
  rw [behind, behind, lastByte?_append, hlast, Option.none_or]

/-- The next answer is that to the next stretch. -/
theorem next_behind {past : List Mark} {s : Stretch}
    (hjoined : s.joined ↔
      s.marks.head? = some (.byte lineFeed) ∧ lastByte? past = some carriageReturn)
    (ms : List Mark) :
    (behind past (s.marks ++ ms)).next = (s.answer, behind (past ++ s.marks) ms) := by
  obtain ⟨joined, bytes, close, hplain⟩ := s
  have line (past' : List Mark) (hpast' : lastByte? past' ≠ some carriageReturn) :
      nextFrom none false (bytes.map .byte ++ [close.mark] ++ ms) =
        (Stretch.answer { joined, bytes, close, plain := hplain },
          behind (past' ++ (bytes.map .byte ++ [close.mark])) ms) := by
    rw [List.append_assoc, List.singleton_append, nextFrom_stretch hplain, behind]
    simp only [lastByte?_line_iff hpast' hplain]
    rfl
  by_cases hpast : lastByte? past = some carriageReturn
  · have hafter (ms : List Mark) : (behind past ms).next = nextFrom none true ms := by
      rw [next, behind, decide_eq_true hpast]
    -- A line that begins with another byte than an LF is read as if no CR stood before it.
    have other {b : UInt8} {rest : List Mark} (hnot : joined = false) (hb : b ≠ lineFeed)
        (hmarks : bytes.map .byte ++ [close.mark] = .byte b :: rest) :
        (behind past (bytes.map .byte ++ [close.mark] ++ ms)).next =
          (Stretch.answer { joined, bytes, close, plain := hplain },
            behind (past ++ (bytes.map .byte ++ [close.mark])) ms) := by
      have hline := line [] (by simp [lastByte?])
      rw [hmarks] at hline ⊢
      rw [hafter, List.cons_append, nextFrom_true_byte hb, behind_append_byte]
      exact hline
    have silent {m : Mark} (hm : m.byte? = none) :
        behind (past ++ [m]) ms = { marks := ms, afterReturn := true } := by
      rw [behind_append_silent past hm, behind, decide_eq_true hpast]
    cases joined with
    | true =>
      have hline := line (past ++ [.byte lineFeed]) (by rw [lastByte?_concat]; decide)
      rw [← List.append_cons past] at hline
      rw [Stretch.marks_of_joined rfl, hafter, List.cons_append, nextFrom, if_pos ⟨rfl, rfl⟩]
      exact hline
    | false =>
      rw [Stretch.marks_of_not_joined rfl]
      rcases bytes with _ | ⟨b, bytes⟩
      · cases close with
        | lineFeed => cases hjoined.2 ⟨rfl, hpast⟩
        | carriageReturn => exact other rfl (by decide) rfl
        | ended => exact (hafter _).trans (congrArg (Prod.mk _) (silent rfl).symm)
        | fault f => exact (hafter _).trans (congrArg (Prod.mk _) (silent rfl).symm)
      · exact other rfl (plain_cons.1 hplain).1.1 rfl
  · have hnot : joined = false := Bool.eq_false_iff.2 fun h => hpast (hjoined.1 h).2
    subst hnot
    rw [Stretch.marks_of_not_joined rfl, next, behind, decide_eq_false hpast]
    exact line past hpast

/-- The answers are those to the stretches, and then none. -/
theorem firstAnswers_of_falls {past ms : List Mark} {ss : List Stretch} (h : Falls past ms ss)
    (n : Nat) :
    (behind past ms).firstAnswers n = (ss.map Stretch.answer ++ List.replicate n none).take n := by
  induction h generalizing n with
  | nil => simpa [behind] using firstAnswers_nil n _
  | @cons past ms s ss hjoined _ ih =>
    cases n with
    | zero => rfl
    | succ n =>
      have hmore : (ss.map Stretch.answer ++ List.replicate (n + 1) none).take n =
          (ss.map Stretch.answer ++ List.replicate n none).take n := by
        rw [List.replicate_succ', ← List.append_assoc, List.take_append_of_le_length (by simp)]
      rw [firstAnswers, next_behind hjoined, ih, List.map_cons, List.cons_append,
        List.take_succ_cons, hmore]

/-- An end behind all other marks is used up by the last answer, or leaves nothing to answer. -/
theorem nextFrom_append_ended (begun : Option (List UInt8)) (afterReturn : Bool) (ms : List Mark) :
    ∃ behind, nextFrom begun afterReturn (ms ++ [.ended]) =
        ((nextFrom begun afterReturn ms).1,
          { (nextFrom begun afterReturn ms).2 with
            marks := (nextFrom begun afterReturn ms).2.marks ++ behind }) ∧
      (behind = [.ended] ∨ behind = []) := by
  fun_induction nextFrom begun afterReturn ms with
  | case1 => exact ⟨[], rfl, .inr rfl⟩
  | case2 => exact ⟨[.ended], rfl, .inl rfl⟩
  | case3 => exact ⟨[.ended], rfl, .inl rfl⟩
  | case4 begun afterReturn b ms hb ih =>
    simpa only [List.cons_append, nextFrom, if_pos hb] using ih
  | case5 begun afterReturn b ms hb hin ih =>
    simpa only [List.cons_append, nextFrom, if_neg hb, if_pos hin] using ih
  | case6 begun afterReturn b ms hb hin =>
    exact ⟨[.ended], by simp only [List.cons_append, nextFrom, if_neg hb, if_neg hin], .inl rfl⟩

/-- The end of a script is an end of the input. -/
theorem firstAnswers_append_ended (n : Nat) (r : MarkReader) :
    firstAnswers n { r with marks := r.marks ++ [.ended] } = firstAnswers n r := by
  induction n generalizing r with
  | zero => rfl
  | succ n ih =>
    obtain ⟨behind, hnext, hbehind⟩ := nextFrom_append_ended none r.afterReturn r.marks
    rw [firstAnswers, firstAnswers, next, hnext]
    rcases hbehind with rfl | rfl
    · rw [ih, next]
    · rw [List.append_nil, next]

end MarkReader

/-- Whatever a script holds, it falls into stretches in exactly one way, its end being an end of the
input. The answers of a reader, to however many requests, are those to the stretches, and then
none. -/
theorem Reader.firstAnswers_of_stretches (script : List Delivery) :
    ∃ ss, (∀ ts, Falls [] (marks script ++ [.ended]) ts ↔ ts = ss) ∧
      ∀ n, firstAnswers n { script } =
        (ss.map Stretch.answer ++ List.replicate n none).take n := by
  obtain ⟨ss, hss⟩ := exists_falls [] (marks script)
  refine ⟨ss, fun ts => ⟨fun hts => hts.unique hss, fun hts => hts ▸ hss⟩, fun n => ?_⟩
  rw [firstAnswers_view, ← MarkReader.firstAnswers_of_falls hss n]
  exact (MarkReader.firstAnswers_append_ended n (view { script })).symm

/-- A fault and an end of the input between a CR and its LF, and a fault that loses a line. -/
example :
    Reader.firstAnswers 5 {
        script := [
          .chunk [0x61, 0x0D], .fault { kind := .other }, .chunk [], .chunk [0x0A, 0x62],
          .fault { kind := .invalidData }] } =
      [some (.ok "a"), some (.error { kind := .other }), none,
        some (.error { kind := .invalidData }), none] := by
  decide

end Symbolizer
