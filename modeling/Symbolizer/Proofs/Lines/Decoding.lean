import Symbolizer.Proofs.Lines.Reading
import Symbolizer.Proofs.Text.Tolerant

/-!
# Decoding and cutting

Lines can be cut before their bytes are decoded or after. `Lineation.decoded` is the lineation of
the decoded text: it has the same ends, and its lines are the decoded ones (`text_decoded`). Behind
this stands that the ends are bytes of ASCII, which no ill-formed sequence swallows, and that
decoding makes no end where there was none.
-/

namespace Symbolizer

open Text.Tolerant

theorem eq_toNat_of_ofNat_eq {n : Nat} {c : Char} (hc : c.toNat ≠ 0) (h : Char.ofNat n = c) :
    n = c.toNat := by
  by_cases hn : n.isValidChar
  · rw [← h, show Char.ofNat n = Char.ofNatAux n hn from dif_pos hn]
    rfl
  · rw [← h, show Char.ofNat n = '\x00' from dif_neg hn] at hc
    exact absurd rfl hc

/-- Decoding a line does not end it. -/
theorem Plain.decode {s : List UInt8} (hs : Plain s) : Plain (decode s).toList := by
  intro c hc
  rw [toList_decode] at hc
  rcases mem_chars (by simp) hc with ⟨b, hb, rfl⟩ | ⟨n, hn, rfl⟩
  · obtain ⟨hf, hr⟩ : b ≠ Reader.lineFeed ∧ b ≠ Reader.carriageReturn := hs b hb
    exact ⟨fun h => hf (UInt8.toNat_inj.1 (eq_toNat_of_ofNat_eq (c := '\n') (by decide) h)),
      fun h => hr (UInt8.toNat_inj.1 (eq_toNat_of_ofNat_eq (c := '\r') (by decide) h))⟩
  · constructor <;> intro h
    · exact absurd hn (eq_toNat_of_ofNat_eq (c := '\n') (by decide) h ▸ by decide)
    · exact absurd hn (eq_toNat_of_ofNat_eq (c := '\r') (by decide) h ▸ by decide)

theorem decode_ne_nil {s : List UInt8} (h : s ≠ []) : (decode s).toList ≠ [] := by
  rw [toList_decode]
  exact chars_none_ne_nil h

theorem toList_decode_nil : (decode []).toList = [] := rfl

/-- Where a line ends, decoding starts afresh. -/
theorem toList_decode_append (s : List UInt8) (e : LineEnd) (rest : List UInt8) :
    (decode (s ++ e.symbols ++ rest)).toList =
      (decode s).toList ++ e.symbols ++ (decode rest).toList := by
  have single {b : UInt8} (hb : b < 0x80) (xs ys : List UInt8) :
      chars none (xs ++ b :: ys) = chars none xs ++ Char.ofNat b.toNat :: chars none ys :=
    chars_append_cons hb (by simp) xs ys
  simp only [toList_decode, List.append_assoc]
  cases e with
  | lineFeed => exact single (b := Reader.lineFeed) (by decide) s rest
  | carriageReturn => exact single (b := Reader.carriageReturn) (by decide) s rest
  | both =>
    refine (single (b := Reader.carriageReturn) (by decide) s (Reader.lineFeed :: rest)).trans ?_
    exact congrArg (chars none s ++ '\r' :: ·) (single (b := Reader.lineFeed) (by decide) [] rest)

namespace Lineation

/-- The lineation of the decoded text. -/
def decoded (e : Lineation UInt8) : Lineation Char where
  ended := e.ended.map fun p => ((decode p.1).toList, p.2)
  last := e.last.map fun s => (decode s).toList
  plain := by
    intro q hq
    obtain ⟨p, hp, rfl⟩ := List.mem_map.1 hq
    exact (e.plain p hp).decode
  plain_last := by
    intro t ht
    obtain ⟨s, hs, rfl⟩ := Option.map_eq_some_iff.1 ht
    exact ⟨decode_ne_nil (e.plain_last s hs).1, (e.plain_last s hs).2.decode⟩
  apart := by
    refine (List.isChain_map _).2 (e.apart.imp fun p q h => ?_)
    rintro ⟨hp, hq⟩
    refine h ⟨hp, ?_⟩
    obtain ⟨s, t⟩ := q
    simp only [Prod.mk.injEq] at hq ⊢
    exact ⟨Classical.byContradiction fun hs => decode_ne_nil hs hq.1, hq.2⟩

theorem lines_decoded (e : Lineation UInt8) :
    e.decoded.lines = e.lines.map fun s => (decode s).toList := by
  simp [lines, decoded, Function.comp_def]
  cases e.last <;> rfl

/-- Taking a text apart and decoding it can be done in either order. -/
theorem text_decoded (e : Lineation UInt8) : e.decoded.text = (decode e.text).toList := by
  obtain ⟨ended, last, plain, plain_last, apart⟩ := e
  simp only [text, decoded]
  clear plain plain_last apart
  induction ended with
  | nil => cases last <;> simp [textOf, toList_decode_nil]
  | cons p more ih =>
    have := toList_decode_append p.1 p.2 (textOf more last)
    rw [← ih] at this
    simpa [textOf] using this.symm

end Lineation

/-- The lines of an input, decoded one by one, are the lines of the decoded input. -/
theorem items_eq_lines_decode {script : List Delivery} {bytes : List UInt8}
    (h : Cut script bytes) :
    Reader.items { script } =
      (Lineation.ofList (decode bytes).toList).lines.map fun line => .ok (String.ofList line) := by
  have htext : (Lineation.ofList bytes).text = bytes := Lineation.text_ofList bytes
  have hdecoded : Lineation.ofList (decode bytes).toList = (Lineation.ofList bytes).decoded := by
    rw [Lineation.ofList_eq_iff, Lineation.text_decoded, htext]
  rw [hdecoded, Lineation.lines_decoded, Reader.items_of_cut (htext.symm ▸ h), List.map_map]
  simp [Function.comp_def]

/-- Ill-formed sequences directly before ends of lines, and at the end of the input. -/
theorem items_eq_lines_decode_truncated :
    Reader.items {
        script := [
          .chunk [0x61, 0xE2], .fault { kind := .interrupted }, .chunk [0x82, 0x0D],
          .chunk [0x0A, 0xF0, 0x9F, 0x0A, 0xC3]] } =
      [.ok "a\uFFFD", .ok "\uFFFD", .ok "\uFFFD"] := by
  have hcut : Cut [.chunk [0x61, 0xE2], .fault { kind := .interrupted }, .chunk [0x82, 0x0D],
      .chunk [0x0A, 0xF0, 0x9F, 0x0A, 0xC3]]
      [0x61, 0xE2, 0x82, 0x0D, 0x0A, 0xF0, 0x9F, 0x0A, 0xC3] :=
    .chunk (by decide) (.interrupted rfl (.chunk (by decide) (.chunk (by decide) .nil)))
  exact (items_eq_lines_decode hcut).trans (by decide)

end Symbolizer
