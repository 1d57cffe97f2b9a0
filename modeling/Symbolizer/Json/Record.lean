import Symbolizer.Json.Token

/-!
# Records in JSON

A record is written as an object with its fields in the order of a schema. It is read from an
object, with the fields in any order and unknown ones left aside, or from an array of the values of
all fields in order. An optional number that is absent is written as null; in an object it may also
be left out. No field may be given twice.

A type is such a record by an instance of `Record`.
-/

namespace Symbolizer.Json

/-- What a field of a record holds. Numbers are 64-bit words. -/
inductive Kind
  | text
  | number
  | optionalNumber
  deriving DecidableEq, Repr

/-- The value of a field. -/
inductive Value
  | text (s : String)
  | number (n : UInt64)
  | absent
  deriving DecidableEq, Repr

/-- The names and kinds of a record's fields, in order. -/
abbrev Schema := List (String × Kind)

/-! ## Writing -/

/-- A value as it is written. -/
def Value.chars : Value → List Char
  | text s => quote s
  | number n => Nat.toDigits 10 n.toNat
  | absent => ['n', 'u', 'l', 'l']

/-- A field as it is written in an object. -/
def fieldChars (field : (String × Kind) × Value) : List Char :=
  quote field.1.1 ++ ':' :: field.2.chars

/-- Items with commas between them. -/
def commaSeparated (items : List (List Char)) : List Char :=
  [','].intercalate items

/-- An object with the given values. -/
def objectChars (schema : Schema) (values : List Value) : List Char :=
  '\x7b' :: commaSeparated ((schema.zip values).map fieldChars) ++ ['\x7d']

/-- An array of the given values. -/
def arrayChars (values : List Value) : List Char :=
  '[' :: commaSeparated (values.map Value.chars) ++ [']']

/-! ## Reading -/

/-- The value that a token is to a field. -/
def Kind.value? (kind : Kind) (t : Token) : Option Value :=
  match kind, t with
  | .text, .string s => s.map .text
  | .number, .number n | .optionalNumber, .number n =>
    n.bind fun n => if h : n < UInt64.size then some (.number (.ofNatLT n h)) else none
  | .optionalNumber, .null => some .absent
  | _, _ => none

/-- The value of a field that is not given. -/
def Kind.missing? : Kind → Option Value
  | .optionalNumber => some .absent
  | _ => none

namespace Unread

/-- A value that has begun and not ended. -/
inductive Frame
  | array
  | object
  deriving DecidableEq, Repr

/-- What may come next in a value that nobody reads. -/
inductive Awaiting
  | value
  | valueOrClose
  | key
  | keyOrClose
  | colon
  | commaOrClose
  deriving DecidableEq, Repr

/-- How a token carries an unread value on: what has begun, and what may come next. -/
def step? (frames : List Frame) (next : Awaiting) (t : Token) : Option (List Frame × Awaiting) :=
  match next, t, frames with
  | .valueOrClose, .closeBracket, .array :: outer => some (outer, .commaOrClose)
  | .value, .openBracket, _ | .valueOrClose, .openBracket, _ =>
    some (.array :: frames, .valueOrClose)
  | .value, .openBrace, _ | .valueOrClose, .openBrace, _ => some (.object :: frames, .keyOrClose)
  | .value, .null, _ | .value, .boolean _, _ | .value, .string _, _ | .value, .number _, _
  | .valueOrClose, .null, _ | .valueOrClose, .boolean _, _ | .valueOrClose, .string _, _
  | .valueOrClose, .number _, _ => some (frames, .commaOrClose)
  | .keyOrClose, .closeBrace, .object :: outer => some (outer, .commaOrClose)
  | .key, .string _, _ | .keyOrClose, .string _, _ => some (frames, .colon)
  | .colon, .colon, _ => some (frames, .value)
  | .commaOrClose, .comma, .array :: _ => some (frames, .value)
  | .commaOrClose, .comma, .object :: _ => some (frames, .key)
  | .commaOrClose, .closeBracket, .array :: outer => some (outer, .commaOrClose)
  | .commaOrClose, .closeBrace, .object :: outer => some (outer, .commaOrClose)
  | _, _, _ => none

/-- The tokens behind the end of a value. -/
def finish? (frames : List Frame) (next : Awaiting) : List Token → Option (List Token)
  | [] => none
  | t :: ts =>
    match step? frames next t with
    | none => none
    | some ([], .commaOrClose) => some ts
    | some (frames, next) => finish? frames next ts

end Unread

/-- The tokens behind a value that nobody reads. -/
def skip? (ts : List Token) : Option (List Token) :=
  Unread.finish? [] .value ts

theorem Unread.length_finish?_lt {frames : List Frame} {next : Awaiting} {ts rest : List Token}
    (h : finish? frames next ts = some rest) : rest.length < ts.length := by
  fun_induction finish? frames next ts with
  | case1 => simp at h
  | case2 => simp at h
  | case3 =>
    obtain rfl : _ = _ := by simpa using h
    simp
  | case4 _ _ _ _ _ _ _ _ ih =>
    have := ih h
    simp only [List.length_cons]
    omega

/-- The values of the fields found so far, by name. -/
abbrev Found := List (String × Value)

/-- Reads the value of a field named `name` from the front; the fields found with it, and the
rest. -/
def readField? (schema : Schema) (found : Found) (name : String) (ts : List Token) :
    Option (Found × List Token) :=
  match schema.lookup name with
  | none => (skip? ts).map (found, ·)
  | some kind =>
    match ts with
    | [] => none
    | t :: ts =>
      if (found.lookup name).isSome then none
      else (kind.value? t).map fun v => ((name, v) :: found, ts)

theorem length_readField?_lt {schema : Schema} {found found' : Found} {name : String}
    {ts rest : List Token} (h : readField? schema found name ts = some (found', rest)) :
    rest.length < ts.length := by
  unfold readField? at h
  split at h
  · obtain ⟨r, hr, he⟩ := Option.map_eq_some_iff.1 h
    obtain ⟨-, rfl⟩ : _ ∧ _ := by simpa using he
    exact Unread.length_finish?_lt hr
  · split at h
    · contradiction
    · split at h
      · contradiction
      · obtain ⟨v, -, he⟩ := Option.map_eq_some_iff.1 h
        obtain ⟨-, rfl⟩ : _ ∧ _ := by simpa using he
        simp

/-- Reads fields up to the end of an object, which must be the end of the text. -/
def readFields? (schema : Schema) (found : Found) : List Token → Option Found
  | .string (some name) :: .colon :: ts =>
    match h : readField? schema found name ts with
    | none => none
    | some (found, [.closeBrace]) => some found
    | some (found, .comma :: ts) =>
      have := length_readField?_lt h
      readFields? schema found ts
    | some _ => none
  | _ => none
termination_by ts => ts.length
decreasing_by simp only [List.length_cons] at *; omega

/-- The values of an object's fields in the order of the schema. -/
def arrange? (schema : Schema) (found : Found) : Option (List Value) :=
  schema.mapM fun (name, kind) => (found.lookup name).or kind.missing?

/-- Reads the values of an array up to its end, which must be the end of the text. -/
def readItems? : Schema → List Token → Option (List Value)
  | [(_, kind)], [t, .closeBracket] => do some [← kind.value? t]
  | (_, kind) :: schema, t :: .comma :: ts => do
    some ((← kind.value? t) :: (← readItems? schema ts))
  | _, _ => none

/-- The values of a record's fields in the tokens of its object or array. -/
def values? (schema : Schema) : List Token → Option (List Value)
  | [.openBrace, .closeBrace] => arrange? schema []
  | .openBrace :: ts => readFields? schema [] ts >>= arrange? schema
  | .openBracket :: ts => readItems? schema ts
  | _ => none

/-! ## Types of records -/

/-- A type whose values are records of one schema. -/
class Record (α : Type) where
  schema : Schema
  values : α → List Value
  ofValues? : List Value → Option α

namespace Record

variable {α : Type} [Record α]

/-- A record as an object, without blanks. -/
def write (a : α) : String :=
  String.ofList (objectChars (schema α) (values a))

/-- A record as an array, without blanks. -/
def writeArray (a : α) : String :=
  String.ofList (arrayChars (values a))

variable (α) in
/-- The record that a text holds, as an object or as an array. -/
def read? (text : String) : Option α :=
  Token.ofChars? text.toList >>= values? (schema α) >>= ofValues?

end Record

end Symbolizer.Json
