import Symbolizer.Proofs.Json.Record
import Symbolizer.Records

/-!
# The domain's records are read back

Extents, headers, blocks and tallies are read back from what is written of them
(`records_round_trip`). Names, time stamps and ends are any texts and addresses any words. The
counters of a tally have no bound of their own, so one is kept as it is only if they are words.
-/

namespace Symbolizer

open Json Json.Record

/-- Whether the counters of a tally are 64-bit words. -/
def Tally.InWords (t : Tally) : Prop :=
  t.read < UInt64.size ∧ t.matched < UInt64.size ∧ t.unresolved < UInt64.size

theorem holds_optionalNumber_of_option (n : Option Address) :
    Kind.optionalNumber.Holds (optionalNumber n) := by
  cases n with
  | none => exact holds_absent
  | some n => exact holds_number (by decide) n

@[simp] theorem optionalNumber?_optionalNumber (n : Option Address) :
    optionalNumber? (optionalNumber n) = some n := by
  cases n <;> rfl

theorem Extent.fits (e : Extent) : Fits e := by
  simp [Fits, values, ofValues?]

theorem Header.fits (h : Header) : Fits h := rfl

theorem Block.fits (b : Block) : Fits b := by
  simp [Fits, values, ofValues?]

theorem Tally.fits_iff (t : Tally) : Fits t ↔ t.InWords := by
  obtain ⟨read, matched, unresolved⟩ := t
  simp [Fits, values, ofValues?, Tally.InWords]

instance : Lawful Extent where
  schema_ne_nil := by simp [schema]
  nodup_names := by decide
  holds_values e := .cons (holds_text _) (.cons (holds_number (by decide) _)
    (.cons (holds_optionalNumber_of_option _) .nil))
  fits_of_ofValues? _ := Extent.fits _

instance : Lawful Header where
  schema_ne_nil := by simp [schema]
  nodup_names := by decide
  holds_values _ := .cons (holds_number (by decide) _) (.cons (holds_text _) .nil)
  fits_of_ofValues? _ := Header.fits _

instance : Lawful Block where
  schema_ne_nil := by simp [schema]
  nodup_names := by decide
  holds_values _ := .cons (holds_text _) (.cons (holds_optionalNumber_of_option _)
    (.cons (holds_text _) .nil))
  fits_of_ofValues? _ := Block.fits _

instance : Lawful Tally where
  schema_ne_nil := by simp [schema]
  nodup_names := by decide
  holds_values _ := .cons (holds_number (by decide) _) (.cons (holds_number (by decide) _)
    (.cons (holds_number (by decide) _) .nil))
  fits_of_ofValues? {vs t} h := by
    simp only [ofValues?] at h
    split at h
    · obtain rfl := Option.some.inj h
      exact (Tally.fits_iff _).2 ⟨UInt64.toNat_lt_size _, UInt64.toNat_lt_size _,
        UInt64.toNat_lt_size _⟩
    · cases h

/-- Records of different types are written with different names first. -/
theorem nodup_write (e : Extent) (h : Header) (b : Block) (t : Tally) :
    [write e, write h, write b, write t].Nodup := by
  -- The names differ in their first letters, which stand behind the first quote.
  have hinitials : [write e, write h, write b, write t].map (·.toList[2]?) =
      [some 'n', some 'a', some 't', some 'l'] := by
    simp [write, objectChars, schema, values, commaSeparated, List.intercalate_cons_cons,
      fieldChars, quote, escape]
  refine List.Nodup.of_map (·.toList[2]?) ?_
  rw [hinitials]
  decide

/-- Every extent, header and block, and every tally of words, is read back from its object and from
its array; no two records are written alike, whether of one type or of two; and what is written of a
record that was read from any text is written again as it is. -/
theorem records_round_trip :
    RoundTrips Extent (fun _ => True) ∧ RoundTrips Header (fun _ => True) ∧
      RoundTrips Block (fun _ => True) ∧ RoundTrips Tally Tally.InWords ∧
      ∀ (e : Extent) (h : Header) (b : Block) (t : Tally),
        [write e, write h, write b, write t].Nodup := by
  have hextent : (Fits : Extent → Prop) = fun _ => True := funext fun e => eq_true e.fits
  have hheader : (Fits : Header → Prop) = fun _ => True := funext fun h => eq_true h.fits
  have hblock : (Fits : Block → Prop) = fun _ => True := funext fun b => eq_true b.fits
  have htally : (Fits : Tally → Prop) = Tally.InWords := funext fun t => propext t.fits_iff
  exact ⟨hextent ▸ roundTrips Extent, hheader ▸ roundTrips Header, hblock ▸ roundTrips Block,
    htally ▸ roundTrips Tally, nodup_write⟩

example : write ({ name := "a\t\"b\"", start := 18446744073709551615, stop := none } : Extent) =
    "\x7b\"name\":\"a\\t\\\"b\\\"\",\"start\":18446744073709551615,\"end_exclusive\":null\x7d" := by
  rfl

end Symbolizer
