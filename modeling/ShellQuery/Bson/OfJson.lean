import ShellQuery.Bson.Value
import ShellQuery.Calendar.Layout
import ShellQuery.Error.Query
import ShellQuery.Number.Binary64
import ShellQuery.Number.Width
import ShellQuery.Text.Hex
import ShellQuery.Text.Position

/-!
# Database values of arguments

The argument values of a statement become database values.  An object whose only
key is `$oid` or `$date` is a wrapper and stands for an object id or a date.  Every
other object is a document, whatever its keys.

An integer becomes the smallest integer type that holds it, and any other number a
binary64 number.  The date `now` is the current time, which is an argument here.
The first wrapper without a meaning, from left to right, is the error.
-/

namespace ShellQuery

/-! ## Object ids -/

/-- Why a text is no object id. -/
inductive ObjectIdError where
  /-- The text has the wrong number of bytes. -/
  | length
  /-- A character is no hexadecimal digit.  It is named by the first byte of its
  UTF-8 form, and by the number of bytes before it. -/
  | character (byte index : Nat)
  deriving DecidableEq, Repr

/-- The first byte of a character in UTF-8. -/
def firstByte (c : Char) : Nat :=
  let n := c.toNat
  if n < 0x80 then n
  else if n < 0x800 then 0xC0 + n / 0x40
  else if n < 0x10000 then 0xE0 + n / 0x1000
  else 0xF0 + n / 0x40000

/-- The digits of a text of hexadecimal digits.  `index` counts the digits before
it. -/
def readHexDigits (index : Nat) : List Char → Except ObjectIdError (List (Fin 16))
  | [] => .ok []
  | c :: rest =>
      match Text.hexDigit? c with
      | none => .error (.character (firstByte c) index)
      | some d => (readHexDigits (index + 1) rest).map (d :: ·)

/-- Reads an object id.  Digits are looked at only if their bytes pair up. -/
def ObjectId.ofText (text : List Char) : Except ObjectIdError ObjectId :=
  if Text.utf8Length text % 2 = 1 then .error .length
  else
    match readHexDigits 0 text with
    | .error e => .error e
    | .ok digits => if h : digits.length = 24 then .ok ⟨digits, h⟩ else .error .length

/-- The wording of an error about a text. -/
def ObjectIdError.message (text : String) : ObjectIdError → String
  | length =>
      "provided hex string representation must be exactly 12 bytes, instead got: \"" ++ text
        ++ "\", length " ++ toString (Text.utf8Length text.toList)
  | character byte index =>
      "invalid character '" ++ String.singleton (Char.ofNat byte) ++ "' was found at index "
        ++ toString index ++ " in the provided hex string: \"" ++ text ++ "\""

namespace Bson

/-! ## Wrappers -/

/-- The object id in a wrapper. -/
def ofObjectIdWrapper : Json → Except ExecutionError Bson
  | .string hex =>
      match ObjectId.ofText hex.toList with
      | .ok id => .ok (.objectId id)
      | .error e =>
          .error (.conversion ("invalid ObjectId '" ++ hex ++ "': " ++ e.message hex))
  | _ => .error (.conversion "$oid must be a string")

/-- The milliseconds in an object under the key for long integers. -/
def longMillis? (members : JsonMembers) : Option Int64 :=
  ((Json.find? "$numberLong" members).bind Json.asString?).bind fun s =>
    DateText.readInt64? s.toList

/-- The date in a wrapper. -/
def ofDateWrapper (now : Int64) : Json → Except ExecutionError Bson
  | .string text =>
      if text = "now" then .ok (.dateTime now)
      else
        match DateText.read? text.toList with
        | some i => .ok (.dateTime (Int64.ofInt i.millis))
        | none => .error (.conversion ("invalid date '" ++ text ++ "'"))
  | .number (.int n) =>
      if Width.isInt64 n then .ok (.dateTime (Int64.ofInt n))
      else .error (.conversion ("invalid date " ++ String.ofList (Json.numberText (.int n))))
  | .number (.float x) =>
      .error (.conversion ("invalid date " ++ String.ofList (Json.numberText (.float x))))
  | .object members =>
      match longMillis? members with
      | some millis => .ok (.dateTime millis)
      | none => .error (.conversion "invalid $date value")
  | other => .error (.conversion ("invalid $date value of type " ++ other.kindName))

/-! ## Values -/

/-- A number. -/
def ofNumber : JsonNumber → Bson
  | .int n =>
      if Width.isInt32 n then .int32 (Int32.ofInt n)
      else if Width.isInt64 n then .int64 (Int64.ofInt n)
      else if n < 0 then .double (-(Float.ofNat n.natAbs))
      else .double (Float.ofNat n.natAbs)
  | .float x => .double x

mutual

/-- The database value of a JSON value.  `now` is the current time. -/
def ofJson (now : Int64) : Json → Except ExecutionError Bson
  | .null => .ok .null
  | .bool b => .ok (.bool b)
  | .number n => .ok (ofNumber n)
  | .string s => .ok (.string s)
  | .array items => (ofItems now items).map .array
  | .object members =>
      match members with
      | [("$oid", inner)] => ofObjectIdWrapper inner
      | [("$date", inner)] => ofDateWrapper now inner
      | _ => (ofMembers now members).map .document

/-- The database values of items. -/
def ofItems (now : Int64) : List Json → Except ExecutionError (List Bson)
  | [] => .ok []
  | x :: rest => do
      let y ← ofJson now x
      let ys ← ofItems now rest
      .ok (y :: ys)

/-- The fields of members. -/
def ofMembers (now : Int64) : List (String × Json) → Except ExecutionError Document
  | [] => .ok []
  | (k, v) :: rest => do
      let y ← ofJson now v
      let ys ← ofMembers now rest
      .ok ((k, y) :: ys)

end

/-- The document of an object.  At this place no object is a wrapper. -/
def documentOfJson (now : Int64) : Json → Except ExecutionError Document
  | .object members => ofMembers now members
  | other => .error (.invalidPayload ("expected a document, got " ++ other.kindName))

/-- The documents of an array of objects. -/
def documentsOfJson (now : Int64) : Json → Except ExecutionError (List Document)
  | .array items => items.mapM (documentOfJson now)
  | other => .error (.invalidPayload ("expected an array of documents, got " ++ other.kindName))

end Bson

end ShellQuery
