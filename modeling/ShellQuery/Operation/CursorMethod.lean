import ShellQuery.Operation.Kind

/-!
# Cursor methods

The methods that may be chained to an operation, and the table of the kinds of
operations that each applies to.
-/

namespace ShellQuery

/-- A method of a cursor. -/
inductive CursorMethod where
  /-- The order of the documents. -/
  | sort
  /-- The largest number of documents. -/
  | limit
  /-- How many documents are passed over. -/
  | skip
  /-- The index to use. -/
  | hint
  /-- A note for the server's log. -/
  | comment
  /-- The time the server may take. -/
  | maxTimeMS
  /-- The rules for comparing strings. -/
  | collation
  /-- How settled the data has to be. -/
  | readConcern
  /-- Which servers may answer. -/
  | readPref
  /-- Whether the server may use its disk. -/
  | allowDiskUse
  /-- Whether the cursor stays open when it is idle. -/
  | noCursorTimeout
  /-- Whether only the keys of the index are wanted. -/
  | returnKey
  /-- Whether documents carry their record number. -/
  | showRecordId
  /-- How many documents come in one reply. -/
  | batchSize
  /-- Whether the result is written on several lines. -/
  | pretty
  /-- A function to call for each document. -/
  | forEach
  /-- A function to apply to each document. -/
  | map
  /-- Counts on the server. -/
  | count
  /-- Counts the documents of the cursor. -/
  | size
  /-- Counts the documents of the cursor. -/
  | itcount
  /-- Collects the documents, which changes nothing. -/
  | toArray
  deriving DecidableEq, Repr

namespace CursorMethod

/-- Every method. -/
def all : List CursorMethod :=
  [ sort, limit, skip, hint, comment, maxTimeMS, collation, readConcern, readPref, allowDiskUse,
    noCursorTimeout, returnKey, showRecordId, batchSize, pretty, forEach, map, count, size,
    itcount, toArray ]

/-- The name of a method. -/
def name : CursorMethod → String
  | sort => "sort"
  | limit => "limit"
  | skip => "skip"
  | hint => "hint"
  | comment => "comment"
  | maxTimeMS => "maxTimeMS"
  | collation => "collation"
  | readConcern => "readConcern"
  | readPref => "readPref"
  | allowDiskUse => "allowDiskUse"
  | noCursorTimeout => "noCursorTimeout"
  | returnKey => "returnKey"
  | showRecordId => "showRecordId"
  | batchSize => "batchSize"
  | pretty => "pretty"
  | forEach => "forEach"
  | map => "map"
  | count => "count"
  | size => "size"
  | itcount => "itcount"
  | toArray => "toArray"

/-- The method with a name. -/
def ofName? (name : String) : Option CursorMethod := all.find? (·.name == name)

/-- The kinds of operations that a method applies to. -/
def kinds : CursorMethod → List OperationKind
  | sort | limit | skip => [.find, .findOne, .aggregate]
  | hint | comment | maxTimeMS | collation | readConcern | readPref =>
      [.find, .findOne, .count, .aggregate]
  | allowDiskUse | noCursorTimeout | returnKey | showRecordId | batchSize | forEach | map =>
      [.find, .aggregate]
  | count | size | itcount => [.find]
  | pretty | toArray => OperationKind.all

/-- Whether a method applies to a kind of operation. -/
def appliesTo (m : CursorMethod) (kind : OperationKind) : Bool := m.kinds.contains kind

/-- Whether a method turns a find into a count. -/
def isCounting : CursorMethod → Bool
  | count | size | itcount => true
  | _ => false

theorem ofName?_name (m : CursorMethod) : ofName? m.name = some m := by
  cases m <;> decide

theorem name_of_ofName? {s : String} {m : CursorMethod} (h : ofName? s = some m) : m.name = s := by
  simpa using List.find?_some h

end CursorMethod

end ShellQuery
