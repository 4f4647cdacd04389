import ShellQuery.Bson.Value
import ShellQuery.Calendar.Instant
import ShellQuery.Json.Printer

/-!
# Extended JSON

Two ways to write a database value as JSON.  The canonical form keeps the type of
every number.  The relaxed form writes numbers plainly, and dates from 1970
through 9999 as text.
-/

namespace ShellQuery

/-- The digits of an object id as text. -/
def ObjectId.hexText (id : ObjectId) : String :=
  String.ofList (id.digits.map fun d => Text.hexDigit d.val)

namespace Bson

/-- An object with one member. -/
def wrapped (key : String) (value : Json) : Json := .object [(key, value)]

/-- The text of a number that is infinite or not a number. -/
def specialText (x : Float) : String :=
  if x.isNaN then "NaN" else if x < 0 then "-Infinity" else "Infinity"

/-- Whether a number is finite and neither zero nor subnormal. -/
def isNormal (p : Binary64.Parts) : Bool := Binary64.hiddenBit ≤ p.significand

/-! ## The relaxed form -/

/-- The first instant of the year 10000, in milliseconds. -/
def year10000 : Int := 253402300800000

/-- A number in the relaxed form. -/
def relaxedDouble (x : Float) : Json :=
  if x.isFinite then .float x else wrapped "$numberDouble" (.string (specialText x))

/-- A date in the canonical form. -/
def canonicalDate (millis : Int64) : Json :=
  wrapped "$date" (wrapped "$numberLong" (.string (String.ofList (intText millis.toInt))))

/-- A date in the relaxed form. -/
def relaxedDate (millis : Int64) : Json :=
  let n := millis.toInt
  if 0 ≤ n && n < year10000 then wrapped "$date" (.string (String.ofList (instantText n)))
  else canonicalDate millis

mutual

/-- A value in the relaxed form. -/
def relaxed : Bson → Json
  | null => .null
  | bool b => .bool b
  | int32 n => .int n.toInt
  | int64 n => .int n.toInt
  | double x => relaxedDouble x
  | string s => .string s
  | objectId id => wrapped "$oid" (.string id.hexText)
  | dateTime millis => relaxedDate millis
  | array items => .array (relaxedItems items)
  | document fields => .object (relaxedFields fields)

/-- Items in the relaxed form. -/
def relaxedItems : List Bson → List Json
  | [] => []
  | x :: rest => relaxed x :: relaxedItems rest

/-- Fields in the relaxed form. -/
def relaxedFields : List (String × Bson) → List (String × Json)
  | [] => []
  | (k, v) :: rest => (k, relaxed v) :: relaxedFields rest

end

/-! ## The canonical form -/

/-- A binary64 number in the canonical form.  A subnormal one is written
plainly. -/
def canonicalDouble (x : Float) : Json :=
  match Binary64.parts? x with
  | none => relaxedDouble x
  | some p =>
      if isNormal p || p.significand == 0 then
        wrapped "$numberDouble"
          (.string (String.ofList ((FloatLayout.plain.text? x).getD [])))
      else .float x

mutual

/-- A value in the canonical form. -/
def canonical : Bson → Json
  | null => .null
  | bool b => .bool b
  | int32 n => wrapped "$numberInt" (.string (String.ofList (intText n.toInt)))
  | int64 n => wrapped "$numberLong" (.string (String.ofList (intText n.toInt)))
  | double x => canonicalDouble x
  | string s => .string s
  | objectId id => wrapped "$oid" (.string id.hexText)
  | dateTime millis => canonicalDate millis
  | array items => .array (canonicalItems items)
  | document fields => .object (canonicalFields fields)

/-- Items in the canonical form. -/
def canonicalItems : List Bson → List Json
  | [] => []
  | x :: rest => canonical x :: canonicalItems rest

/-- Fields in the canonical form. -/
def canonicalFields : List (String × Bson) → List (String × Json)
  | [] => []
  | (k, v) :: rest => (k, canonical v) :: canonicalFields rest

end

end Bson

end ShellQuery
