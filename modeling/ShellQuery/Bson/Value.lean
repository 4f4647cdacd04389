import ShellQuery.Json.Value

/-!
# Database values

The values that the database stores, as far as statements can write them: numbers
come in three types, and object ids and dates are values of their own.  Documents
keep their order.
-/

namespace ShellQuery

/-- An object id: 24 hexadecimal digits. -/
structure ObjectId where
  /-- The digits. -/
  digits : List (Fin 16)
  /-- There are 24 of them. -/
  length_eq : digits.length = 24
  deriving DecidableEq

/-- The object id whose digits are the last 24 of a number. -/
def ObjectId.ofNat (n : Nat) : ObjectId :=
  { digits := List.ofFn fun place : Fin 24 =>
      ⟨n / Nat.pow 16 (23 - place.val) % 16, Nat.mod_lt _ (by decide)⟩
    length_eq := List.length_ofFn }

/-- A database value. -/
inductive Bson where
  /-- No value. -/
  | null
  /-- A boolean. -/
  | bool (b : Bool)
  /-- An integer of 32 bits. -/
  | int32 (n : Int32)
  /-- An integer of 64 bits. -/
  | int64 (n : Int64)
  /-- A binary64 number. -/
  | double (x : Float)
  /-- A string. -/
  | string (s : String)
  /-- An object id. -/
  | objectId (id : ObjectId)
  /-- A date, in milliseconds from the start of 1970. -/
  | dateTime (millis : Int64)
  /-- An array. -/
  | array (items : List Bson)
  /-- A document: its fields in order. -/
  | document (fields : List (String × Bson))
  deriving Inhabited

/-- The fields of a document, in order. -/
abbrev Document := List (String × Bson)

namespace Document

/-- The value of the first field with a name. -/
def find? (name : String) : Document → Option Bson
  | [] => none
  | (k, v) :: rest => if k = name then some v else find? name rest

/-- The fields with one more.  A field that is there already keeps its place and
takes the new value. -/
def put (name : String) (value : Bson) : Document → Document
  | [] => [(name, value)]
  | (k, v) :: rest => if k = name then (k, value) :: rest else (k, v) :: put name value rest

end Document

end ShellQuery
