import ShellQuery.Bson.OfJson
import ShellQuery.Number.Decimal

/-!
# Reading extended JSON

The database value of extended JSON, in the canonical form and in the relaxed one.
Beside the wrappers of arguments there is one for each type of number.  A plain
number has the smallest type that holds it.
-/

namespace ShellQuery

namespace Bson

/-- The number of a decimal text, rounded to nearest. -/
def decimalText? (text : List Char) : Option Float := do
  let (negative, text) :=
    match text with
    | '-' :: rest => (true, rest)
    | rest => (false, rest)
  let isMark := fun c => c == 'e' || c == 'E'
  let mantissa := text.takeWhile (!isMark ·)
  let whole := mantissa.takeWhile (· != '.')
  let fraction := (mantissa.dropWhile (· != '.')).tail
  let exponent ←
    match text.dropWhile (!isMark ·) with
    | [] => some 0
    | _ :: exponent => Decimal.integer? exponent
  let n ← Decimal.digits? (whole ++ fraction)
  let scale := exponent - fraction.length
  let x := Float.ofScientific n (scale < 0) scale.natAbs
  some (if negative then -x else x)

/-- The number of a text in a wrapper for binary64 numbers. -/
def doubleText? (text : String) : Option Float :=
  match text with
  | "Infinity" => some (1 / 0)
  | "-Infinity" => some (-1 / 0)
  | "NaN" => some (0 / 0)
  | text => decimalText? text.toList

/-- The value of a wrapper for numbers. -/
def ofNumberWrapper? (key text : String) : Option Bson :=
  match key with
  | "$numberInt" =>
      (Decimal.integer? text.toList).bind fun n =>
        if Width.isInt32 n then some (.int32 (Int32.ofInt n)) else none
  | "$numberLong" =>
      (Decimal.integer? text.toList).bind fun n =>
        if Width.isInt64 n then some (.int64 (Int64.ofInt n)) else none
  | "$numberDouble" => (doubleText? text).map .double
  | _ => none

/-- The value of a wrapper for dates. -/
def dateOfWrapper? : Json → Option Bson
  | .string text =>
      (DateText.readZoned? text.toList).map fun i => .dateTime (Int64.ofInt i.millis)
  | .object members => (longMillis? members).map .dateTime
  | _ => none

mutual

/-- The value of extended JSON. -/
def ofExtended? : Json → Option Bson
  | .null => some .null
  | .bool b => some (.bool b)
  | .number n => some (ofNumber n)
  | .string s => some (.string s)
  | .array items => (ofExtendedItems? items).map .array
  | .object members =>
      match members with
      | [("$oid", inner)] => (ofObjectIdWrapper inner).toOption
      | [("$date", inner)] => dateOfWrapper? inner
      | [(key, .string text)] =>
          if ["$numberInt", "$numberLong", "$numberDouble"].contains key then
            ofNumberWrapper? key text
          else some (.document [(key, .string text)])
      | members => (ofExtendedMembers? members).map .document

/-- The values of items. -/
def ofExtendedItems? : List Json → Option (List Bson)
  | [] => some []
  | x :: rest => do
      let y ← ofExtended? x
      let ys ← ofExtendedItems? rest
      some (y :: ys)

/-- The fields of members. -/
def ofExtendedMembers? : List (String × Json) → Option Document
  | [] => some []
  | (key, value) :: rest => do
      let y ← ofExtended? value
      let ys ← ofExtendedMembers? rest
      some ((key, y) :: ys)

end

/-- The document of an object of extended JSON. -/
def extendedDocument? : Json → Option Document
  | .object members => ofExtendedMembers? members
  | _ => none

end Bson

end ShellQuery
