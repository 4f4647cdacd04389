import ShellQuery.Bson.Value
import ShellQuery.Number.Layout
import ShellQuery.Number.Width
import ShellQuery.Text.Quoted

/-!
# Collations

The rules by which the server compares strings.  A collation is read from a
document.  A field that is not known is passed over, and `null` leaves an optional
one unset.  The first faulty field in the order of the document is the error, and
a missing locale is the last one.
-/

namespace ShellQuery

/-- Which case comes first. -/
inductive CaseFirst where
  /-- Capital letters. -/
  | upper
  /-- Small letters. -/
  | lower
  /-- Neither. -/
  | off
  deriving DecidableEq, Repr

/-- Whether blanks and punctuation count. -/
inductive Alternate where
  /-- They do. -/
  | nonIgnorable
  /-- They do not, up to a strength. -/
  | shifted
  deriving DecidableEq, Repr

/-- What `shifted` passes over. -/
inductive MaxVariable where
  /-- Blanks and punctuation. -/
  | punct
  /-- Blanks. -/
  | space
  deriving DecidableEq, Repr

/-- The rules for comparing strings. -/
structure Collation where
  /-- The language. -/
  locale : String
  /-- The level of comparison, from one to five. -/
  strength : Option Nat := none
  /-- Whether case counts on a level of its own. -/
  caseLevel : Option Bool := none
  /-- Which case comes first. -/
  caseFirst : Option CaseFirst := none
  /-- Whether digits are compared as numbers. -/
  numericOrdering : Option Bool := none
  /-- Whether blanks and punctuation count. -/
  alternate : Option Alternate := none
  /-- What is passed over. -/
  maxVariable : Option MaxVariable := none
  /-- Whether texts are normalised. -/
  normalization : Option Bool := none
  /-- Whether accents are compared from the end. -/
  backwards : Option Bool := none
  deriving DecidableEq, Repr

/-- The name of a choice of case. -/
def CaseFirst.name : CaseFirst → String
  | upper => "upper"
  | lower => "lower"
  | off => "off"

/-- The name of a treatment of blanks. -/
def Alternate.name : Alternate → String
  | nonIgnorable => "non-ignorable"
  | shifted => "shifted"

/-- The name of what is passed over. -/
def MaxVariable.name : MaxVariable → String
  | punct => "punct"
  | space => "space"

namespace Bson

/-- The kind and the content of a value, as messages name it. -/
def describe : Bson → String
  | null => "unit value"
  | bool b => "boolean \x60" ++ toString b ++ "\x60"
  | int32 n => "integer \x60" ++ toString n.toInt ++ "\x60"
  | int64 n => "integer \x60" ++ toString n.toInt ++ "\x60"
  | double x =>
      "floating point \x60" ++ String.ofList ((FloatLayout.plain.text? x).getD []) ++ "\x60"
  | string s => "string " ++ Text.quoted s
  | array _ => "sequence"
  | objectId _ | dateTime _ | document _ => "map"

/-- A value of the wrong type. -/
def wrongType {α : Type} (value : Bson) (expected : String) : Except String α :=
  .error ("invalid type: " ++ value.describe ++ ", expected " ++ expected)

/-- Reads a string. -/
def readString : Bson → Except String String
  | string s => .ok s
  | value => wrongType value "a string"

/-- Reads a boolean. -/
def readBool : Bson → Except String Bool
  | bool b => .ok b
  | value => wrongType value "a boolean"

/-- Reads a natural number below a bound. -/
def readUnsigned (bound : Nat) (expected : String) (value : Bson) : Except String Nat :=
  match value with
  | int32 n => bounded n.toInt
  | int64 n => bounded n.toInt
  | _ => wrongType value expected
where
  /-- An integer within the bounds. -/
  bounded (n : Int) : Except String Nat :=
    if 0 ≤ n && n < bound then .ok n.toNat
    else .error ("invalid value: " ++ value.describe ++ ", expected " ++ expected)

/-- Reads a value that `null` leaves unset. -/
def readOptional {α : Type} (read : Bson → Except String α) : Bson → Except String (Option α)
  | null => .ok none
  | value => (read value).map some

end Bson

namespace Collation

/-- An argument that the driver does not accept. -/
def refused {α : Type} (what value : String) : Except String α :=
  .error ("Kind: An invalid argument was provided: invalid " ++ what ++ ": " ++ value
    ++ ", labels: \x7b\x7d")

/-- Reads a level of comparison. -/
def readStrength (value : Bson) : Except String Nat := do
  let n ← Bson.readUnsigned Width.words32 "u32" value
  if 1 ≤ n && n ≤ 5 then .ok n else refused "collation strength" (toString n)

/-- Reads one of some named values. -/
def readNamed {α : Type} (what : String) (choices : List (String × α)) (value : Bson) :
    Except String α := do
  let name ← Bson.readString value
  match choices.lookup name with
  | some a => .ok a
  | none => refused what name

/-- Reads which case comes first. -/
def readCaseFirst : Bson → Except String CaseFirst :=
  readNamed "CollationCaseFirst" [("upper", .upper), ("lower", .lower), ("off", .off)]

/-- Reads whether blanks count. -/
def readAlternate : Bson → Except String Alternate :=
  readNamed "collation alternate" [("non-ignorable", .nonIgnorable), ("shifted", .shifted)]

/-- Reads what is passed over. -/
def readMaxVariable : Bson → Except String MaxVariable :=
  readNamed "collation max variable" [("punct", .punct), ("space", .space)]

/-- What is known of a collation so far. -/
structure Draft where
  /-- The locale, if it was there. -/
  locale : Option String := none
  /-- The optional fields, under an empty locale. -/
  rest : Collation := { locale := "" }

/-- A draft with one more field. -/
def Draft.add (d : Draft) (name : String) (value : Bson) : Except String Draft :=
  let c := d.rest
  match name with
  | "locale" => do .ok { d with locale := some (← Bson.readString value) }
  | "strength" => do
      .ok { d with rest := { c with strength := ← Bson.readOptional readStrength value } }
  | "caseLevel" => do
      .ok { d with rest := { c with caseLevel := ← Bson.readOptional Bson.readBool value } }
  | "caseFirst" => do
      .ok { d with rest := { c with caseFirst := ← Bson.readOptional readCaseFirst value } }
  | "numericOrdering" => do
      .ok { d with rest := { c with numericOrdering := ← Bson.readOptional Bson.readBool value } }
  | "alternate" => do
      .ok { d with rest := { c with alternate := ← Bson.readOptional readAlternate value } }
  | "maxVariable" => do
      .ok { d with rest := { c with maxVariable := ← Bson.readOptional readMaxVariable value } }
  | "normalization" => do
      .ok { d with rest := { c with normalization := ← Bson.readOptional Bson.readBool value } }
  | "backwards" => do
      .ok { d with rest := { c with backwards := ← Bson.readOptional Bson.readBool value } }
  | _ => .ok d

/-- Reads a collation. -/
def ofDocument (doc : Document) : Except String Collation := do
  let draft ← doc.foldlM (fun d (name, value) => d.add name value) ({} : Draft)
  match draft.locale with
  | some locale => .ok { draft.rest with locale := locale }
  | none => .error "missing field \x60locale\x60"

/-- A collation as the fields of a document. -/
def toDocument (c : Collation) : Document :=
  [ ("locale", some (.string c.locale)),
    ("strength", c.strength.map fun n => .int32 (Int32.ofNat n)),
    ("caseLevel", c.caseLevel.map .bool),
    ("caseFirst", c.caseFirst.map fun v => .string v.name),
    ("numericOrdering", c.numericOrdering.map .bool),
    ("alternate", c.alternate.map fun v => .string v.name),
    ("maxVariable", c.maxVariable.map fun v => .string v.name),
    ("normalization", c.normalization.map .bool),
    ("backwards", c.backwards.map .bool) ].filterMap fun (name, value?) => value?.map (name, ·)

end Collation

end ShellQuery
