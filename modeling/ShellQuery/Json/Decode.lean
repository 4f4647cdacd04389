import ShellQuery.Json.Printer
import ShellQuery.Number.Width
import ShellQuery.Text.Quoted

/-!
# Decoding JSON values

A decoder takes a JSON value to a value of another type, or says what is wrong
with it.  A record is an object with a member per field, or an array of its fields
in order.  Unknown members are passed over.

Of several faults in an object the first member in its own order decides.  Missing
fields are looked for last, in the order of the fields.
-/

namespace ShellQuery

/-- A function from JSON values that may fail with a message. -/
abbrev Decoder (α : Type) := Json → Except String α

namespace Decode

/-! ## Messages -/

/-- The kind and the content of a value, as messages name it. -/
def describe : Json → String
  | .null => "null"
  | .bool b => "boolean \x60" ++ toString b ++ "\x60"
  | .number (.int n) => "integer \x60" ++ toString n ++ "\x60"
  | .number (.float x) =>
      "floating point \x60" ++ String.ofList (Json.numberText (.float x)) ++ "\x60"
  | .string s => "string " ++ Text.quoted s
  | .array _ => "sequence"
  | .object _ => "map"

/-- A value of the wrong type. -/
def wrongType {α : Type} (value : Json) (expected : String) : Except String α :=
  .error ("invalid type: " ++ describe value ++ ", expected " ++ expected)

/-- A value of the right type that is not allowed. -/
def wrongValue {α : Type} (value : Json) (expected : String) : Except String α :=
  .error ("invalid value: " ++ describe value ++ ", expected " ++ expected)

/-- A sequence of the wrong length. -/
def wrongLength {α : Type} (length : Nat) (expected : String) : Except String α :=
  .error ("invalid length " ++ toString length ++ ", expected " ++ expected)

/-! ## Decoders of single values -/

/-- Any value. -/
def any : Decoder Json := .ok

/-- A string. -/
def string : Decoder String
  | .string s => .ok s
  | value => wrongType value "a string"

/-- A boolean. -/
def bool : Decoder Bool
  | .bool b => .ok b
  | value => wrongType value "a boolean"

/-- An integer from a range. -/
def integer (low high : Int) (expected : String) : Decoder Int
  | .number (.int n) =>
      if low ≤ n && n ≤ high then .ok n else wrongValue (.int n) expected
  | value => wrongType value expected

/-- A signed integer of 64 bits. -/
def int64 : Decoder Int64 := fun value =>
  (integer Width.int64Min Width.int64Max "i64" value).map Int64.ofInt

/-- A natural number of a number of bits. -/
def unsigned (bits : Nat) : Decoder Nat := fun value =>
  (integer 0 (Nat.pow 2 bits - 1 : Nat) ("u" ++ toString bits) value).map Int.toNat

/-- A value that may be `null`, which stands for none. -/
def nullable {α : Type} (decoder : Decoder α) : Decoder (Option α)
  | .null => .ok none
  | value => (decoder value).map some

/-- An array of values. -/
def list {α : Type} (decoder : Decoder α) : Decoder (List α)
  | .array items => items.mapM decoder
  | value => wrongType value "a sequence"

/-- The names of a choice, as a message lists them. -/
def choiceText (names : List String) : String :=
  let quoted := names.map fun name => "\x60" ++ name ++ "\x60"
  match quoted with
  | [] => "there are no variants"
  | [a] => "expected " ++ a
  | [a, b] => "expected " ++ a ++ " or " ++ b
  | _ => "expected one of " ++ String.intercalate ", " quoted

/-- One of some named values.  An object with the name as its one key and `null` as
the value will do as well. -/
def choice {α : Type} (choices : List (String × α)) : Decoder α
  | .string name => named name
  | .object [(name, value)] => do
      let a ← named name
      match value with
      | .null => .ok a
      | other => wrongType other "unit"
  | .object members => wrongValue (.object members) "map with a single key"
  | value => wrongType value "string or map"
where
  /-- The value with a name. -/
  named (name : String) : Except String α :=
    match choices.lookup name with
    | some a => .ok a
    | none =>
        .error ("unknown variant \x60" ++ name ++ "\x60, " ++ choiceText (choices.map Prod.fst))

/-! ## Records -/

/-- A field of a record. -/
structure Field where
  /-- The name of the field. -/
  name : String
  /-- What is wrong with a value of the field. -/
  check : Json → Except String Unit
  /-- Whether an array of fields may end before this one. -/
  hasDefault : Bool := false

/-- A field whose values a decoder takes. -/
def field {α : Type} (name : String) (decoder : Decoder α) : Field :=
  { name := name, check := fun value => (decoder value).map fun _ => () }

/-- A field that may be left out of an array too. -/
def defaulted {α : Type} (name : String) (decoder : Decoder α) : Field :=
  { field name decoder with hasDefault := true }

/-- Where the fields of a record come from. -/
inductive Source where
  /-- Members of an object. -/
  | members (ms : JsonMembers)
  /-- Items of an array, in the order of the fields. -/
  | items (xs : List Json)

/-- The value of a field, by its name and its place. -/
def Source.value? (name : String) (place : Nat) : Source → Option Json
  | members ms => Json.find? name ms
  | items xs => xs[place]?

/-- Checks the members of an object in their order. -/
def checkMembers (fields : List Field) (ms : JsonMembers) : Except String Unit :=
  ms.forM fun (key, value) =>
    match fields.find? (·.name == key) with
    | some f => f.check value
    | none => .ok ()

/-- Checks items against the fields from a place on. -/
def checkItems (title : String) (count : Nat) :
    Nat → List Field → List Json → Except String Unit
  | place, [], rest =>
      if rest.isEmpty then .ok ()
      else wrongLength (place + rest.length) "fewer elements in array"
  | place, f :: fields, [] =>
      if f.hasDefault then checkItems title count (place + 1) fields []
      else
        wrongLength place ("struct " ++ title ++ " with " ++ toString count
          ++ (if count = 1 then " element" else " elements"))
  | place, f :: fields, value :: rest => do
      f.check value
      checkItems title count (place + 1) fields rest

/-- The source of a record whose values have all been checked. -/
def source (title : String) (fields : List Field) : Json → Except String Source
  | .object ms => do
      checkMembers fields ms
      .ok (.members ms)
  | .array xs => do
      checkItems title fields.length 0 fields xs
      .ok (.items xs)
  | value => wrongType value ("struct " ++ title)

/-- The value of a field that has to be there. -/
def required {α : Type} (s : Source) (name : String) (place : Nat) (decoder : Decoder α) :
    Except String α :=
  match s.value? name place with
  | some value => decoder value
  | none => .error ("missing field \x60" ++ name ++ "\x60")

/-- The value of a field that may be left out. -/
def fieldOr {α : Type} (s : Source) (name : String) (place : Nat) (decoder : Decoder α)
    (default : α) : Except String α :=
  match s.value? name place with
  | some value => decoder value
  | none => .ok default

end Decode

end ShellQuery
