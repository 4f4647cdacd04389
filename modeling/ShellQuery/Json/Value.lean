/-!
# JSON values

A JSON value keeps what a text says about it: an integer is told from a float,
and the members of an object keep their order.  `put` is the rule for a repeated
key: it keeps its first place and takes the last value.
-/

namespace ShellQuery

/-- A JSON number.  Integers are those written without fraction and exponent. -/
inductive JsonNumber where
  /-- An integer.  A reader makes only those from `-2 ^ 63` to `2 ^ 64 - 1`. -/
  | int (n : Int)
  /-- A finite binary64 number. -/
  | float (x : Float)

/-- A JSON value. -/
inductive Json where
  /-- The value `null`. -/
  | null
  /-- A boolean. -/
  | bool (b : Bool)
  /-- A number. -/
  | number (n : JsonNumber)
  /-- A string. -/
  | string (s : String)
  /-- An array. -/
  | array (items : List Json)
  /-- An object: its members in order. -/
  | object (members : List (String × Json))
  deriving Inhabited

/-- The members of a JSON object, in order. -/
abbrev JsonMembers := List (String × Json)

namespace Json

/-- An integer value. -/
def int (n : Int) : Json := .number (.int n)

/-- A floating point value. -/
def float (x : Float) : Json := .number (.float x)

/-- The object without members. -/
def emptyObject : Json := .object []

/-- A string or `null`. -/
def optString : Option String → Json
  | none => .null
  | some s => .string s

/-- The value of the first member with a key. -/
def find? (key : String) : JsonMembers → Option Json
  | [] => none
  | (k, v) :: rest => if k = key then some v else find? key rest

/-- The value of a member of an object.  Other values have no members. -/
def get? (key : String) : Json → Option Json
  | object members => find? key members
  | _ => none

/-- The members with one more.  A key that is there already keeps its place and
takes the new value. -/
def put (key : String) (value : Json) : JsonMembers → JsonMembers
  | [] => [(key, value)]
  | (k, v) :: rest => if k = key then (k, value) :: rest else (k, v) :: put key value rest

/-- Whether a value is an object. -/
def isObject : Json → Bool
  | object _ => true
  | _ => false

/-- The boolean a value is, if it is one. -/
def asBool? : Json → Option Bool
  | bool b => some b
  | _ => none

/-- The string a value is, if it is one. -/
def asString? : Json → Option String
  | string s => some s
  | _ => none

/-- The kind of a value, as error texts name it. -/
def kindName : Json → String
  | null => "null"
  | bool _ => "boolean"
  | number _ => "number"
  | string _ => "string"
  | array _ => "array"
  | object _ => "object"

end Json

end ShellQuery
