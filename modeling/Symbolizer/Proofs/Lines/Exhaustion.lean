import Symbolizer.Proofs.Lines.Reading

/-!
# Readers use up their input

A reader does its work one look at the input at a time. A look may only be the first of several
(`Look`): behind an interruption, behind an LF that belongs to the CR before it, and behind a part
of a line the reader looks again. Each time it has used up something, be it a byte, a fault or an
end of the input (`exists_used_look`), so it comes to an answer (`exists_ends`), whatever it has
been through before, and after enough answers nothing is left to use up but the end. Nor is there a
byte in a line that was not in the input (`Requests.flatMap_lineBytes_sublist`).
`Reader.uses_up_script` puts this together.
-/

namespace Symbolizer

namespace Delivery

/-- The least answers of a device that come to the same as one of its answers: each byte by itself,
and what has no bytes as it is. -/
def parts : Delivery → List Delivery
  | chunk [] => [chunk []]
  | chunk (b :: bytes) => (b :: bytes).map fun b => chunk [b]
  | fault f => [fault f]

/-- The bytes of an answer. -/
def bytes : Delivery → List UInt8
  | chunk bytes => bytes
  | fault _ => []

theorem length_parts (d : Delivery) : d.parts.length = d.weight := by
  rcases d with ⟨_ | ⟨b, bytes⟩⟩ | f
  · rfl
  · simp [parts, weight]
  · rfl

theorem parts_ne_nil (d : Delivery) : d.parts ≠ [] := by
  have hpos := d.weight_pos
  rw [← length_parts] at hpos
  exact List.length_pos_iff.1 hpos

theorem flatMap_bytes_parts (d : Delivery) : d.parts.flatMap bytes = d.bytes := by
  rcases d with ⟨_ | ⟨b, bytes⟩⟩ | f
  · rfl
  · simp [parts, Delivery.bytes, List.flatMap_map]
  · rfl

end Delivery

open Delivery (parts bytes)

/-- All of a script, part by part. -/
def partsOf (script : List Delivery) : List Delivery := script.flatMap parts

/-- All bytes of a script. -/
def bytesOf (script : List Delivery) : List UInt8 := script.flatMap bytes

theorem partsOf_cons (d : Delivery) (script : List Delivery) :
    partsOf (d :: script) = d.parts ++ partsOf script := rfl

/-- A script lasts for as many requests as it has parts. -/
theorem length_partsOf (script : List Delivery) :
    (partsOf script).length = Delivery.total script := by
  induction script with
  | nil => rfl
  | cons d script ih =>
    rw [partsOf_cons, List.length_append, Delivery.length_parts, ih, Delivery.total]

theorem partsOf_eq_nil_iff {script : List Delivery} : partsOf script = [] ↔ script = [] := by
  cases script with
  | nil => exact iff_of_true rfl rfl
  | cons d script => simp [partsOf_cons, d.parts_ne_nil]

theorem bytesOf_partsOf (script : List Delivery) : bytesOf (partsOf script) = bytesOf script := by
  rw [bytesOf, partsOf, List.flatMap_assoc, bytesOf]
  exact List.flatMap_congr fun d _ => d.flatMap_bytes_parts

theorem bytesOf_map_chunk (line : List UInt8) : bytesOf (line.map fun b => .chunk [b]) = line := by
  simp [bytesOf, List.flatMap_map, bytes]

theorem bytesOf_append (script more : List Delivery) :
    bytesOf (script ++ more) = bytesOf script ++ bytesOf more :=
  List.flatMap_append

theorem partsOf_chunk_cons (b : UInt8) (bytes : List UInt8) (script : List Delivery) :
    partsOf (.chunk (b :: bytes) :: script) =
      (b :: bytes).map (fun b => .chunk [b]) ++ partsOf script := rfl

theorem partsOf_putBack (rest : List UInt8) (script : List Delivery) :
    partsOf (Reader.putBack rest script) = rest.map (fun b => .chunk [b]) ++ partsOf script := by
  cases rest <;> rfl

/-! ## One look at the input -/

namespace Reader

/-- What is answered to a request, if anything, before a line is decoded. -/
abbrev Raw := Option (Except Fault (List UInt8))

namespace Raw

/-- An answer with its line decoded. -/
def decoded (raw : Raw) : Option (Except Fault String) :=
  raw.map (Except.map Text.Tolerant.decode)

/-- The bytes of the line, if the answer is one. -/
def lineBytes : Raw → List UInt8
  | some (.ok line) => line
  | _ => []

end Raw

/-- What a look at the input comes to. -/
inductive Look
  /-- There is more to read, with what there is of a line if it has begun. -/
  | goOn (begun : Option (List UInt8))
  | answer (raw : Raw)

/-- The bytes of the line so far. -/
def Look.lineBytes : Look → List UInt8
  | goOn begun => begun.getD []
  | answer raw => raw.lineBytes

/-- Looks at the input once, with the bytes `begun` of a line if it has begun. -/
def look (begun : Option (List UInt8)) (r : Reader) : Look × Reader :=
  match r.script with
  | [] => (.answer (begun.map .ok), r)
  | .fault f :: script =>
    if f.kind = .interrupted then (.goOn begun, { r with script })
    else (.answer (some (.error f)), { r with script })
  | .chunk [] :: script => (.answer (begun.map .ok), { r with script })
  | .chunk (b :: bytes) :: script =>
    if r.afterReturn ∧ b = lineFeed then (.goOn begun, { script := putBack bytes script })
    else
      let line := begun.getD [] ++ (b :: bytes).takeWhile inLine
      match (b :: bytes).dropWhile inLine with
      | [] => (.goOn (some line), { script })
      | e :: rest =>
        (.answer (some (.ok line)),
          { script := putBack rest script, afterReturn := e = carriageReturn })

/-- Whether a reader with the bytes `begun` of a line looks on `n` times before a look that comes to
an answer, and is another reader then. -/
inductive Ends : Option (List UInt8) → Reader → Nat → Raw → Reader → Prop
  | answer {begun : Option (List UInt8)} {r r' : Reader} {raw : Raw}
      (h : look begun r = (.answer raw, r')) : Ends begun r 0 raw r'
  | goOn {begun begun' : Option (List UInt8)} {r r' r'' : Reader} {n : Nat} {raw : Raw}
      (h : look begun r = (.goOn begun', r')) (hends : Ends begun' r' n raw r'') :
      Ends begun r (n + 1) raw r''

theorem lineBytes_map_ok (begun : Option (List UInt8)) :
    Raw.lineBytes (begun.map .ok) = begun.getD [] := by
  cases begun <;> rfl

theorem decoded_map_ok (begun : Option (List UInt8)) :
    Raw.decoded (begun.map .ok) = finished begun := by
  cases begun <;> rfl

/-- A look uses up the front of the input, or finds it used up and comes to an answer. A line gets
no bytes but those that are used up. -/
theorem exists_used_look (begun : Option (List UInt8)) (r : Reader) :
    ∃ used, partsOf r.script = used ++ partsOf (look begun r).2.script ∧
      (look begun r).1.lineBytes.Sublist (begun.getD [] ++ bytesOf used) ∧
      (used ≠ [] ∨ r.script = [] ∧ look begun r = (.answer (begun.map .ok), r)) := by
  have hkept (used : List Delivery) :
      (begun.getD []).Sublist (begun.getD [] ++ bytesOf used) := List.sublist_append_left _ _
  obtain ⟨script, afterReturn⟩ := r
  rcases script with _ | ⟨⟨_ | ⟨b, bytes⟩⟩ | f, script⟩
  · refine ⟨[], rfl, ?_, .inr ⟨rfl, rfl⟩⟩
    rw [look, Look.lineBytes, lineBytes_map_ok]
    exact hkept []
  · refine ⟨[.chunk []], rfl, ?_, .inl (List.cons_ne_nil _ _)⟩
    rw [look, Look.lineBytes, lineBytes_map_ok]
    exact hkept _
  · simp only [look, partsOf_chunk_cons]
    split
    · refine ⟨[.chunk [b]], ?_, hkept _, .inl (List.cons_ne_nil _ _)⟩
      rw [partsOf_putBack]
      rfl
    · have hsplit := List.takeWhile_append_dropWhile (p := inLine) (l := b :: bytes)
      split
      · next hdrop =>
        refine ⟨(b :: bytes).map fun b => .chunk [b], rfl, ?_, .inl (List.cons_ne_nil _ _)⟩
        rw [bytesOf_map_chunk]
        exact (List.takeWhile_sublist _).append_left _
      · next e rest hdrop =>
        rw [hdrop] at hsplit
        refine ⟨((b :: bytes).takeWhile inLine ++ [e]).map fun b => .chunk [b], ?_, ?_, .inl ?_⟩
        · rw [partsOf_putBack, ← List.append_assoc, ← List.map_append, List.append_assoc,
            List.singleton_append, hsplit]
        · rw [bytesOf_map_chunk]
          exact (List.sublist_append_left _ _).append_left _
        · simp
  · simp only [look]
    split
    · exact ⟨[.fault f], rfl, hkept _, .inl (List.cons_ne_nil _ _)⟩
    · exact ⟨[.fault f], rfl, List.nil_sublist _, .inl (List.cons_ne_nil _ _)⟩

/-! ## From look to look -/

/-- What looks until an answer use up: one part of the input each at the least, and no byte comes
into a line from elsewhere. -/
theorem Ends.exists_used {begun : Option (List UInt8)} {r r' : Reader} {n : Nat} {raw : Raw}
    (h : Ends begun r n raw r') :
    ∃ used, partsOf r.script = used ++ partsOf r'.script ∧ n ≤ used.length ∧
      raw.lineBytes.Sublist (begun.getD [] ++ bytesOf used) ∧
      (used ≠ [] ∨ r.script = [] ∧ raw = begun.map .ok ∧ r' = r) := by
  induction h with
  | @answer begun r r' raw hlook =>
    obtain ⟨used, hparts, hline, hused⟩ := exists_used_look begun r
    rw [hlook] at hparts hline hused
    refine ⟨used, hparts, Nat.zero_le _, hline, hused.imp_right fun ⟨hempty, heq⟩ => ?_⟩
    obtain ⟨hraw, rfl⟩ := Prod.mk.inj heq
    exact ⟨hempty, Look.answer.inj hraw, rfl⟩
  | @goOn begun begun' r r' r'' n raw hlook _ ih =>
    obtain ⟨used, hparts, hline, hused⟩ := exists_used_look begun r
    obtain ⟨more, hmore, hn, hrest, -⟩ := ih
    rw [hlook] at hparts hline hused
    have hne : used ≠ [] := hused.resolve_right fun ⟨_, heq⟩ => by cases heq
    have hpos := List.length_pos_iff.2 hne
    refine ⟨used ++ more, ?_, ?_, ?_, .inl fun hnil => hne (List.append_eq_nil_iff.1 hnil).1⟩
    · rw [hparts, hmore, List.append_assoc]
    · rw [List.length_append]
      omega
    · rw [bytesOf_append, ← List.append_assoc]
      exact hrest.trans (hline.append_right _)

theorem Ends.congr {begun : Option (List UInt8)} {r s r' : Reader} {n : Nat} {raw : Raw}
    (h : Ends begun r n raw r') (hlook : look begun s = look begun r) : Ends begun s n raw r' := by
  cases h with
  | answer h => exact .answer (hlook.trans h)
  | goOn h hends => exact .goOn (hlook.trans h) hends

/-- A look at bytes behind none that a CR ended goes to the end of the line. -/
theorem look_putBack (begun : Option (List UInt8)) {bytes : List UInt8} (hne : bytes ≠ [])
    (script : List Delivery) :
    look begun { script := putBack bytes script } =
      match bytes.dropWhile inLine with
      | [] => (.goOn (some (begun.getD [] ++ bytes.takeWhile inLine)), { script })
      | e :: rest =>
        (.answer (some (.ok (begun.getD [] ++ bytes.takeWhile inLine))),
          { script := putBack rest script, afterReturn := e = carriageReturn }) := by
  cases bytes with
  | nil => exact absurd rfl hne
  | cons b bytes =>
    simp only [look, putBack, List.isEmpty_cons, Bool.false_eq_true, if_false, false_and]

/-- An LF that belongs to the CR before it costs one look. -/
theorem Ends.exists_of_behind_return {begun : Option (List UInt8)} {afterReturn : Bool} {b : UInt8}
    {bytes : List UInt8} {script : List Delivery} {n : Nat} {raw : Raw} {r' : Reader}
    (h : Ends begun
      { script := putBack (if afterReturn ∧ b = lineFeed then bytes else b :: bytes) script }
      n raw r') :
    ∃ n, Ends begun { script := .chunk (b :: bytes) :: script, afterReturn } n raw r' := by
  split at h
  · next hfeed => exact ⟨n + 1, .goOn (by simp only [look, if_pos hfeed]) h⟩
  · next hfeed =>
    refine ⟨n, h.congr ?_⟩
    simp only [look, putBack, List.isEmpty_cons, Bool.false_eq_true, if_false, false_and,
      if_neg hfeed]

/-- A request for a line is answered by what its looks come to. -/
theorem exists_ends (begun : Option (List UInt8)) (afterReturn : Bool) (script : List Delivery) :
    ∃ n raw, Ends begun { script, afterReturn } n raw (nextFrom begun afterReturn script).2 ∧
      (nextFrom begun afterReturn script).1 = raw.decoded := by
  fun_induction nextFrom begun afterReturn script with
  | case1 begun afterReturn => exact ⟨0, _, .answer rfl, (decoded_map_ok begun).symm⟩
  | case2 begun afterReturn f script hf ih =>
    obtain ⟨n, raw, hends, hraw⟩ := ih
    exact ⟨n + 1, raw, .goOn (by simp only [look, if_pos hf]) hends, hraw⟩
  | case3 begun afterReturn f script hf =>
    exact ⟨0, some (.error f), .answer (by simp only [look, if_neg hf]), rfl⟩
  | case4 begun afterReturn script => exact ⟨0, _, .answer rfl, (decoded_map_ok begun).symm⟩
  | case5 begun afterReturn b bytes script bs hb ih =>
    obtain ⟨n, raw, hends, hraw⟩ := ih
    have hrest : Ends begun { script := putBack bs script } n raw
        (nextFrom begun false script).2 := by
      rw [putBack, if_pos hb]
      exact hends
    obtain ⟨n, hends⟩ := hrest.exists_of_behind_return
    exact ⟨n, raw, hends, hraw⟩
  | case6 begun afterReturn b bytes script bs hb line hdrop ih =>
    obtain ⟨n, raw, hends, hraw⟩ := ih
    have hlook := look_putBack begun (mt List.isEmpty_iff.2 hb) script
    rw [hdrop] at hlook
    obtain ⟨n, hends⟩ := (Ends.goOn hlook hends).exists_of_behind_return
    exact ⟨n, raw, hends, hraw⟩
  | case7 begun afterReturn b bytes script bs hb line e rest hdrop =>
    have hlook := look_putBack begun (mt List.isEmpty_iff.2 hb) script
    rw [hdrop] at hlook
    obtain ⟨n, hends⟩ := (Ends.answer hlook).exists_of_behind_return
    exact ⟨n, some (.ok line), hends, rfl⟩

/-! ## From request to request -/

/-- Requests for lines one after another: what each is answered before decoding, and the reader that
is left. -/
inductive Requests : Reader → List Raw → Reader → Prop
  | nil {r : Reader} : Requests r [] r
  | cons {r r' r'' : Reader} {n : Nat} {raw : Raw} {raws : List Raw}
      (h : Ends none r n raw r') (hmore : Requests r' raws r'') : Requests r (raw :: raws) r''

theorem exists_requests (n : Nat) (r : Reader) :
    ∃ raws r', Requests r raws r' ∧ firstAnswers n r = raws.map Raw.decoded := by
  induction n generalizing r with
  | zero => exact ⟨[], r, .nil, rfl⟩
  | succ n ih =>
    obtain ⟨_, raw, hends, hraw⟩ := exists_ends none r.afterReturn r.script
    obtain ⟨raws, r', hmore, hraws⟩ := ih r.next.2
    exact ⟨raw :: raws, r', .cons hends hmore, by
      rw [firstAnswers, List.map_cons, ← hraws, ← hraw, next]⟩

/-- All bytes in the lines of some answers are bytes of the input, in its order. -/
theorem Requests.flatMap_lineBytes_sublist {r r' : Reader} {raws : List Raw}
    (h : Requests r raws r') : (raws.flatMap Raw.lineBytes).Sublist (bytesOf r.script) := by
  induction h with
  | nil => exact List.nil_sublist _
  | @cons r r' r'' n raw raws hends _ ih =>
    obtain ⟨used, hparts, -, hline, -⟩ := hends.exists_used
    rw [← bytesOf_partsOf, hparts, bytesOf_append, bytesOf_partsOf, List.flatMap_cons]
    exact hline.append ih

/-- A request uses up the front of the input, or finds it used up and gives nothing. -/
theorem exists_used_next (r : Reader) :
    ∃ used, partsOf r.script = used ++ partsOf r.next.2.script ∧
      (used ≠ [] ∨ r.script = [] ∧ r.next = (none, r)) := by
  obtain ⟨n, raw, hends, hraw⟩ := exists_ends none r.afterReturn r.script
  obtain ⟨used, hparts, -, -, hused⟩ := hends.exists_used
  refine ⟨used, hparts, hused.imp_right fun ⟨hempty, hnone, hr⟩ => ⟨hempty, Prod.ext ?_ hr⟩⟩
  rw [next, hraw, hnone]
  rfl

/-- After as many answers as the input has parts there are none but at its end. -/
theorem firstAnswers_add {r : Reader} {m : Nat} (hm : (partsOf r.script).length ≤ m) (n : Nat) :
    firstAnswers (m + n) r = firstAnswers m r ++ List.replicate n none := by
  induction m generalizing r with
  | zero =>
    have hempty : r.script = [] :=
      partsOf_eq_nil_iff.1 (List.eq_nil_of_length_eq_zero (Nat.le_zero.1 hm))
    rw [Nat.zero_add, firstAnswers_view, view, hempty]
    exact MarkReader.firstAnswers_nil n r.afterReturn
  | succ m ih =>
    obtain ⟨used, hparts, hused⟩ := exists_used_next r
    have hrest : (partsOf r.next.2.script).length ≤ m := by
      rcases hused with hne | ⟨hempty, hnext⟩
      · have hpos := List.length_pos_iff.2 hne
        rw [hparts, List.length_append] at hm
        omega
      · rw [hnext, hempty]
        exact Nat.zero_le m
    rw [Nat.add_right_comm, firstAnswers, firstAnswers, ih hrest, List.cons_append]

/-- Every request for a line comes to an answer, after at most as many looks that go on as there are
parts of the script, and it uses up at least one of these, or finds the script used up and gives
nothing. So once as many requests were made as the script has parts, each further one gives nothing.
The lines that are given have no bytes, before they are decoded, but those of the script. -/
theorem uses_up_script (r : Reader) :
    r.weight = (partsOf r.script).length ∧
    (∃ n raw, n ≤ r.weight ∧ Ends none r n raw r.next.2 ∧ r.next.1 = raw.decoded) ∧
    (∃ used, partsOf r.script = used ++ partsOf r.next.2.script ∧
      (used ≠ [] ∨ r.script = [] ∧ r.next = (none, r))) ∧
    (∀ n, firstAnswers (r.weight + n) r =
      firstAnswers r.weight r ++ List.replicate n none) ∧
    ∀ n, ∃ raws r', Requests r raws r' ∧ firstAnswers n r = raws.map Raw.decoded ∧
      (raws.flatMap Raw.lineBytes).length ≤ (bytesOf r.script).length := by
  have hweight : r.weight = (partsOf r.script).length := (length_partsOf r.script).symm
  refine ⟨hweight, ?_, exists_used_next r, firstAnswers_add (Nat.le_of_eq hweight.symm),
    fun n => ?_⟩
  · obtain ⟨n, raw, hends, hraw⟩ := exists_ends none r.afterReturn r.script
    obtain ⟨used, hparts, hn, -, -⟩ := hends.exists_used
    refine ⟨n, raw, ?_, hends, hraw⟩
    rw [hweight, hparts, List.length_append]
    omega
  · obtain ⟨raws, r', hrequests, hraws⟩ := exists_requests n r
    exact ⟨raws, r', hrequests, hraws, hrequests.flatMap_lineBytes_sublist.length_le⟩

/-- An LF that belongs to the CR before it and two interruptions, all used up by a request that
gives nothing. -/
example :
    next {
        script := [.fault { kind := .interrupted }, .chunk [0x0A], .fault { kind := .interrupted },
          .chunk [], .chunk [0x61]]
        afterReturn := true } =
      (none, { script := [.chunk [0x61]] }) := by
  decide

end Reader

end Symbolizer
