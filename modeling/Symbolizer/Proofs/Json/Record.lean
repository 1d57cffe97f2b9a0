import Mathlib.Data.List.Forall2
import Mathlib.Data.List.Nodup
import Symbolizer.Proofs.Json.Token

/-!
# Records are read back

A record whose fields have different names and hold what their kinds say (`Record.Lawful`) is read
back from what is written of it, as an object and as an array, provided that its values are all that
there is to it (`Record.Fits`). What is read from any text is such a record. So no two records are
written alike, and writing again what was read changes nothing more (`Record.roundTrips`).
-/

namespace Symbolizer.Json

open Token (ofChars?)

/-- Whether a value is read back from its token as a field of the kind. -/
def Kind.Holds (kind : Kind) (v : Value) : Prop := kind.value? v.token = some v

theorem holds_text (s : String) : Kind.text.Holds (.text s) := rfl

/-- A number is one whether or not it may be absent. -/
theorem holds_number {kind : Kind} (hkind : kind ≠ .text) (n : UInt64) :
    kind.Holds (.number n) := by
  cases kind with
  | text => contradiction
  | number | optionalNumber => simp [Kind.Holds, Value.token, Kind.value?, n.toNat_lt_size]

theorem holds_absent : Kind.optionalNumber.Holds .absent := rfl

/-- Whether values are what a schema asks for, one for each field. -/
def Schema.Holds (schema : Schema) (values : List Value) : Prop :=
  List.Forall₂ (fun field v => field.2.Holds v) schema values

/-- The tokens of a field. -/
def fieldTokens (field : (String × Kind) × Value) : List Token :=
  [.string (some field.1.1), .colon, field.2.token]

/-- The tokens of an object behind the brace that opens it. -/
def objectTokens (fields : List ((String × Kind) × Value)) : List Token :=
  [Token.comma].intercalate (fields.map fieldTokens) ++ [.closeBrace]

/-- The tokens of an array behind the bracket that opens it. -/
def arrayTokens (values : List Value) : List Token :=
  [Token.comma].intercalate (values.map ([·.token])) ++ [.closeBracket]

/-! ## Tokens -/

theorem ofChars?_field_append (field : (String × Kind) × Value) {rest : List Char}
    (hrest : Text.Scan.Stops Token.extendsNumber rest) :
    ofChars? (fieldChars field ++ rest) = (ofChars? rest).map (fieldTokens field ++ ·) := by
  have hcolon : ofChars? (':' :: (field.2.chars ++ rest)) = _ := Token.ofChars?_cons rfl rfl
  rw [fieldChars, List.append_assoc, List.cons_append, Token.ofChars?_quote_append, hcolon,
    Token.ofChars?_value_append _ hrest, Option.map_map, Option.map_map]
  rfl

theorem ofChars?_objectChars (schema : Schema) (values : List Value) :
    ofChars? (objectChars schema values) =
      some (.openBrace :: objectTokens (schema.zip values)) := by
  have hopen : ofChars? ('\x7b' :: (commaSeparated ((schema.zip values).map fieldChars) ++
      ['\x7d'])) = _ := Token.ofChars?_cons rfl rfl
  have hclose : ofChars? ['\x7d'] = _ := Token.ofChars?_cons rfl rfl
  rw [objectChars, List.cons_append, hopen, Token.ofChars?_commaSeparated_append _ _
    (fun field _ hrest => ofChars?_field_append field hrest) _ (Text.Scan.stops_cons rfl _),
    hclose, Token.ofChars?_nil]
  rfl

theorem ofChars?_arrayChars (values : List Value) :
    ofChars? (arrayChars values) = some (.openBracket :: arrayTokens values) := by
  have hopen : ofChars? ('[' :: (commaSeparated (values.map Value.chars) ++ [']'])) = _ :=
    Token.ofChars?_cons rfl rfl
  have hclose : ofChars? [']'] = _ := Token.ofChars?_cons rfl rfl
  rw [arrayChars, List.cons_append, hopen, Token.ofChars?_commaSeparated_append _ ([·.token])
    (fun v _ hrest => Token.ofChars?_value_append v hrest) _ (Text.Scan.stops_cons rfl _),
    hclose, Token.ofChars?_nil]
  rfl

/-! ## Arrays -/

theorem arrayTokens_cons_cons (v w : Value) (values : List Value) :
    arrayTokens (v :: w :: values) = v.token :: .comma :: arrayTokens (w :: values) := by
  simp [arrayTokens, List.intercalate_cons_cons]

/-- The values of an array are read back, one for each field. -/
theorem readItems?_arrayTokens {schema : Schema} {values : List Value}
    (hholds : schema.Holds values) (hne : schema ≠ []) :
    readItems? schema (arrayTokens values) = some values := by
  induction hholds with
  | nil => exact absurd rfl hne
  | @cons field v schema values hv hrest ih =>
    have hv : field.2.value? v.token = some v := hv
    cases hrest with
    | nil => simp [arrayTokens, readItems?, hv]
    | cons =>
      rw [arrayTokens_cons_cons]
      simp [readItems?, hv, ih (List.cons_ne_nil _ _)]

/-! ## Objects -/

theorem objectTokens_cons_cons (f g : (String × Kind) × Value)
    (fields : List ((String × Kind) × Value)) :
    objectTokens (f :: g :: fields) =
      .string (some f.1.1) :: .colon :: f.2.token :: .comma :: objectTokens (g :: fields) := by
  simp [objectTokens, fieldTokens, List.intercalate_cons_cons]

/-- An object with a field does not end at once. -/
theorem objectTokens_ne_closeBrace {fields : List ((String × Kind) × Value)} (hne : fields ≠ []) :
    objectTokens fields ≠ [.closeBrace] := by
  obtain ⟨f, fields, rfl⟩ := List.exists_cons_of_ne_nil hne
  cases fields with
  | nil => simp [objectTokens, fieldTokens]
  | cons => simp [objectTokens_cons_cons]

/-- A field that the schema has and that was not found before is found from its token. -/
theorem readField?_token {schema : Schema} {found : Found} {name : String} {kind : Kind}
    {v : Value} (hkind : schema.lookup name = some kind) (hnew : found.lookup name = none)
    (hv : kind.Holds v) (ts : List Token) :
    readField? schema found name (v.token :: ts) = some ((name, v) :: found, ts) := by
  have hv : kind.value? v.token = some v := hv
  simp [readField?, hkind, hnew, hv]

/-- The last field of an object is found, and reading ends there. -/
theorem readFields?_last {schema : Schema} {found found' : Found} {name : String} {ts : List Token}
    (h : readField? schema found name ts = some (found', [.closeBrace])) :
    readFields? schema found (.string (some name) :: .colon :: ts) = some found' := by
  rw [readFields?]
  split <;> simp_all

/-- Behind a field and a comma, the other fields are found. -/
theorem readFields?_next {schema : Schema} {found found' : Found} {name : String}
    {ts rest : List Token} (h : readField? schema found name ts = some (found', .comma :: rest)) :
    readFields? schema found (.string (some name) :: .colon :: ts) =
      readFields? schema found' rest := by
  rw [readFields?]
  split <;> simp_all

/-- The fields of an object are found, the last of them first, in front of those found before. -/
theorem readFields?_objectTokens {schema : Schema} {fields : List ((String × Kind) × Value)}
    (hne : fields ≠ []) (hnodup : (fields.map (·.1.1)).Nodup) {found : Found}
    (hfields : ∀ f ∈ fields, schema.lookup f.1.1 = some f.1.2 ∧ f.1.2.Holds f.2 ∧
      found.lookup f.1.1 = none) :
    readFields? schema found (objectTokens fields) =
      some ((fields.map fun f => (f.1.1, f.2)).reverse ++ found) := by
  induction fields generalizing found with
  | nil => exact absurd rfl hne
  | cons f fields ih =>
    obtain ⟨hkind, hv, hnew⟩ := hfields f List.mem_cons_self
    have hread := readField?_token hkind hnew hv
    cases fields with
    | nil => exact readFields?_last (hread _)
    | cons g fields =>
      rw [List.map_cons, List.nodup_cons] at hnodup
      -- The other fields are not the one that was just found.
      have hothers : ∀ f' ∈ g :: fields, schema.lookup f'.1.1 = some f'.1.2 ∧ f'.1.2.Holds f'.2 ∧
          ((f.1.1, f.2) :: found).lookup f'.1.1 = none := fun f' hf' => by
        obtain ⟨hkind', hv', hnew'⟩ := hfields f' (List.mem_cons_of_mem _ hf')
        have hother : f'.1.1 ≠ f.1.1 := fun heq => hnodup.1 (heq ▸ List.mem_map_of_mem hf')
        exact ⟨hkind', hv', by simp [List.lookup_cons, beq_eq_false_iff_ne.2 hother, hnew']⟩
      rw [objectTokens_cons_cons, readFields?_next (hread _),
        ih (List.cons_ne_nil _ _) hnodup.2 hothers]
      simp

/-- Where keys do not repeat, an entry is what is looked up under its key. -/
theorem lookup_of_mem {α β : Type} [BEq α] [LawfulBEq α] {entries : List (α × β)}
    (hnodup : (entries.map Prod.fst).Nodup) {k : α} {v : β} (h : (k, v) ∈ entries) :
    entries.lookup k = some v := by
  obtain ⟨before, behind, rfl⟩ := List.append_of_mem h
  refine List.lookup_eq_some_iff.2 ⟨before, behind, rfl, fun p hp => ?_⟩
  rw [List.map_append, List.map_cons] at hnodup
  have hne := (List.nodup_append.1 hnodup).2.2 p.1 (List.mem_map_of_mem hp) k List.mem_cons_self
  simpa using Ne.symm hne

/-- Values that are all found under their names are arranged as they were. -/
theorem arrange?_eq {schema : Schema} {values : List Value} {found : Found}
    (h : List.Forall₂ (fun field v => found.lookup field.1 = some v) schema values) :
    arrange? schema found = some values := by
  induction h with
  | nil => rfl
  | cons hv _ ih =>
    rw [arrange?] at ih ⊢
    simp [List.mapM_cons, hv, ih]

/-! ## Records -/

theorem values?_arrayTokens {schema : Schema} {values : List Value} (hholds : schema.Holds values)
    (hne : schema ≠ []) : values? schema (.openBracket :: arrayTokens values) = some values :=
  readItems?_arrayTokens hholds hne

theorem values?_objectTokens {schema : Schema} {values : List Value} (hholds : schema.Holds values)
    (hne : schema ≠ []) (hnodup : (schema.map Prod.fst).Nodup) :
    values? schema (.openBrace :: objectTokens (schema.zip values)) = some values := by
  have hlength := hholds.length_eq
  have hzip : (schema.zip values).map Prod.fst = schema := List.map_fst_zip hlength.le
  have hzne : schema.zip values ≠ [] := fun h => hne (by rw [← hzip, h, List.map_nil])
  have hznodup : ((schema.zip values).map (·.1.1)).Nodup := by
    rw [← hzip, List.map_map] at hnodup
    exact hnodup
  have hfields : ∀ f ∈ schema.zip values, schema.lookup f.1.1 = some f.1.2 ∧ f.1.2.Holds f.2 ∧
      List.lookup f.1.1 ([] : Found) = none := fun f hf =>
    ⟨lookup_of_mem hnodup (List.of_mem_zip hf).1, (List.forall₂_iff_zip.1 hholds).2 hf, rfl⟩
  have hread := readFields?_objectTokens hzne hznodup hfields
  have harrange : arrange? schema ((schema.zip values).map fun f => (f.1.1, f.2)).reverse =
      some values := by
    refine arrange?_eq (List.forall₂_iff_zip.2 ⟨hlength, fun {field v} hmem => ?_⟩)
    refine lookup_of_mem ?_ (List.mem_reverse.2 (List.mem_map.2 ⟨(field, v), hmem, rfl⟩))
    rw [List.map_reverse, List.map_map]
    exact List.nodup_reverse.2 hznodup
  rw [values?]
  · rw [hread, List.append_nil]
    exact harrange
  · exact objectTokens_ne_closeBrace hzne

namespace Record

variable {α : Type} [Record α]

/-- Whether the values of a record are all that there is to it. -/
def Fits (a : α) : Prop := ofValues? (values a) = some a

variable (α) in
/-- A type of records with fields of different names, whose values are what the schema asks for. -/
class Lawful : Prop where
  schema_ne_nil : schema α ≠ []
  nodup_names : ((schema α).map Prod.fst).Nodup
  holds_values (a : α) : (schema α).Holds (values a)
  fits_of_ofValues? {vs : List Value} {a : α} : ofValues? vs = some a → Fits a

variable (α) in
/-- How reading and writing go together for the records in `fits`. -/
structure RoundTrips (fits : α → Prop) : Prop where
  /-- A record is read back from its object. -/
  read_write : ∀ a, fits a → read? α (write a) = some a
  /-- A record is read back from its array. -/
  read_writeArray : ∀ a, fits a → read? α (writeArray a) = some a
  /-- No two records are written alike. -/
  eq_of_write_eq : ∀ a b, fits a → fits b → write a = write b → a = b
  /-- What is written of a record that was read from any text is written again as it is. -/
  write_read : ∀ text a, read? α text = some a →
    (read? α (write a)).map write = some (write a)

variable [Lawful α]

theorem read?_write {a : α} (h : Fits a) : read? α (write a) = some a := by
  have hvalues := values?_objectTokens (Lawful.holds_values a) Lawful.schema_ne_nil
    Lawful.nodup_names
  simp only [read?, write, String.toList_ofList, ofChars?_objectChars, Option.bind_eq_bind,
    Option.bind_some, hvalues]
  exact h

theorem read?_writeArray {a : α} (h : Fits a) : read? α (writeArray a) = some a := by
  have hvalues := values?_arrayTokens (Lawful.holds_values a) Lawful.schema_ne_nil
  simp only [read?, writeArray, String.toList_ofList, ofChars?_arrayChars, Option.bind_eq_bind,
    Option.bind_some, hvalues]
  exact h

theorem fits_of_read? {text : String} {a : α} (h : read? α text = some a) : Fits a := by
  obtain ⟨vs, -, hvs⟩ := Option.bind_eq_some_iff.1 h
  exact Lawful.fits_of_ofValues? hvs

variable (α) in
theorem roundTrips : RoundTrips α Fits where
  read_write _ := read?_write
  read_writeArray _ := read?_writeArray
  eq_of_write_eq a b ha hb heq :=
    Option.some.inj <| calc
      some a = read? α (write a) := (read?_write ha).symm
      _ = read? α (write b) := by rw [heq]
      _ = some b := read?_write hb
  write_read _ a h := by rw [read?_write (fits_of_read? h), Option.map_some]

end Record

end Symbolizer.Json
