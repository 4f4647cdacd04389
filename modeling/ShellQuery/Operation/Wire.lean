import ShellQuery.Json.Decode
import ShellQuery.Operation.Descriptor

/-!
# Descriptors as JSON

A descriptor is written as an object with its collection, its kind under `type`,
its data, its options and its chained calls.  An absent option is left out, and so
is `many` when it is false.  `Descriptor.ofJson` reads what `Descriptor.toJson`
writes.  For an optional option it takes `null` as absent.
-/

namespace ShellQuery

namespace Wire

/-- A 64-bit integer. -/
def ofInt64 (n : Int64) : Json := .int n.toInt

/-- A function. -/
def function (f : FunctionLiteral) : Json :=
  .object [("param", .string f.param), ("body", .string f.body)]

/-- A chained call. -/
def call (c : CursorCall) : Json :=
  .object [("method", .string c.method), ("args", .string c.args)]

/-! ## Writing -/

/-- Every option with its value, if it is written. -/
def optionRows (o : QueryOptions) : List (String × Option Json) :=
  [ ("sort", o.sort),
    ("limit", o.limit.map ofInt64),
    ("skip", o.skip.map ofInt64),
    ("hint", o.hint),
    ("comment", o.comment.map .string),
    ("maxTimeMS", o.maxTimeMS.map ofInt64),
    ("allowDiskUse", o.allowDiskUse.map .bool),
    ("batchSize", o.batchSize.map ofInt64),
    ("collation", o.collation),
    ("readConcern", o.readConcern.map fun level => .object [("level", .string level)]),
    ("readPreference", o.readPreference.map .string),
    ("noCursorTimeout", o.noCursorTimeout.map .bool),
    ("returnKey", o.returnKey.map .bool),
    ("showRecordId", o.showRecordId.map .bool),
    ("many", if o.many then some (.bool true) else none),
    ("pretty", o.pretty.map .bool),
    ("forEach", o.forEach.map function),
    ("map", o.map.map function),
    ("processingMode", o.processingMode.map fun mode => .string mode.name),
    ("countMode", o.countMode.map fun mode => .string mode.name),
    ("projection", o.projection),
    ("upsert", o.upsert.map .bool) ]

/-- The members for the rows that have a value. -/
def presentRows (rows : List (String × Option Json)) : JsonMembers :=
  rows.filterMap fun (name, value?) => value?.map (name, ·)

/-- Options as an object. -/
def options (o : QueryOptions) : Json := .object (presentRows (optionRows o))

end Wire

/-- A descriptor as an object. -/
def Descriptor.toJson (d : Descriptor) : Json :=
  .object
    [ ("collection", .string d.collection),
      ("type", .string d.kind.name),
      ("data", d.data),
      ("options", Wire.options d.options),
      ("cursorOperations", .array (d.calls.map Wire.call)) ]

/-! ## Reading -/

namespace Wire

open Decode

/-- Reads a record of two strings. -/
def stringPair {α : Type} (title first second : String) (make : String → String → α) :
    Decoder α := fun value => do
  let s ← source title [field first string, field second string] value
  .ok (make (← required s first 0 string) (← required s second 1 string))

/-- Reads a function. -/
def readFunction : Decoder FunctionLiteral :=
  stringPair "CursorFunction" "param" "body" FunctionLiteral.mk

/-- Reads a chained call. -/
def readCall : Decoder CursorCall := stringPair "CursorOperation" "method" "args" CursorCall.mk

/-- Reads a read concern. -/
def readConcern : Decoder String := fun value => do
  let s ← source "ReadConcernOption" [field "level" string] value
  required s "level" 0 string

/-- Reads a processing mode. -/
def readProcessingMode : Decoder ProcessingMode :=
  choice [("forEach", .forEach), ("map", .map)]

/-- Reads a count mode. -/
def readCountMode : Decoder CountMode := choice [("server", .server), ("client", .client)]

/-- Reads a kind of operation. -/
def readKind : Decoder OperationKind := choice (OperationKind.all.map fun k => (k.name, k))

/-- The fields of options, in order. -/
def optionFields : List Field :=
  [ field "sort" any, field "limit" (nullable int64), field "skip" (nullable int64),
    field "hint" any, field "comment" (nullable string), field "maxTimeMS" (nullable int64),
    field "allowDiskUse" (nullable bool), field "batchSize" (nullable int64),
    field "collation" any, field "readConcern" (nullable readConcern),
    field "readPreference" (nullable string), field "noCursorTimeout" (nullable bool),
    field "returnKey" (nullable bool), field "showRecordId" (nullable bool),
    defaulted "many" bool, field "pretty" (nullable bool),
    field "forEach" (nullable readFunction), field "map" (nullable readFunction),
    field "processingMode" (nullable readProcessingMode),
    field "countMode" (nullable readCountMode), field "projection" any,
    field "upsert" (nullable bool) ]

/-- Reads options. -/
def readOptions : Decoder QueryOptions := fun value => do
  let s ← source "QueryOptions" optionFields value
  let opt {α : Type} (name : String) (place : Nat) (decoder : Decoder α) :=
    fieldOr s name place (nullable decoder) none
  .ok
    { sort := ← opt "sort" 0 any
      limit := ← opt "limit" 1 int64
      skip := ← opt "skip" 2 int64
      hint := ← opt "hint" 3 any
      comment := ← opt "comment" 4 string
      maxTimeMS := ← opt "maxTimeMS" 5 int64
      allowDiskUse := ← opt "allowDiskUse" 6 bool
      batchSize := ← opt "batchSize" 7 int64
      collation := ← opt "collation" 8 any
      readConcern := ← opt "readConcern" 9 readConcern
      readPreference := ← opt "readPreference" 10 string
      noCursorTimeout := ← opt "noCursorTimeout" 11 bool
      returnKey := ← opt "returnKey" 12 bool
      showRecordId := ← opt "showRecordId" 13 bool
      many := ← fieldOr s "many" 14 bool false
      pretty := ← opt "pretty" 15 bool
      forEach := ← opt "forEach" 16 readFunction
      map := ← opt "map" 17 readFunction
      processingMode := ← opt "processingMode" 18 readProcessingMode
      countMode := ← opt "countMode" 19 readCountMode
      projection := ← opt "projection" 20 any
      upsert := ← opt "upsert" 21 bool }

/-- The fields of a descriptor, in order. -/
def descriptorFields : List Field :=
  [ field "collection" string, field "type" readKind, field "data" any,
    field "options" readOptions, field "cursorOperations" (list readCall) ]

end Wire

/-- Reads a descriptor. -/
def Descriptor.ofJson : Decoder Descriptor := fun value => do
  let s ← Decode.source "OperationDescriptor" Wire.descriptorFields value
  .ok
    { collection := ← Decode.required s "collection" 0 Decode.string
      kind := ← Decode.required s "type" 1 Wire.readKind
      data := ← Decode.required s "data" 2 Decode.any
      options := ← Decode.required s "options" 3 Wire.readOptions
      calls := ← Decode.required s "cursorOperations" 4 (Decode.list Wire.readCall) }

end ShellQuery
