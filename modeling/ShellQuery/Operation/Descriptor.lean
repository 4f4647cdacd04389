import ShellQuery.Json.Value
import ShellQuery.Operation.Kind
import ShellQuery.Statement.CursorCall
import ShellQuery.Statement.FunctionLiteral

/-!
# Descriptors

A descriptor is what a statement means: an operation on a collection, its data,
and the options that the arguments and the chained calls gave it.  An option that
was not given is absent.
-/

namespace ShellQuery

/-- Who counts. -/
inductive CountMode where
  /-- The server counts the documents that match. -/
  | server
  /-- The documents of a find are counted, so its options still apply. -/
  | client
  deriving DecidableEq, Repr

/-- What is done with each document of the result. -/
inductive ProcessingMode where
  /-- A function is called for it. -/
  | forEach
  /-- A function is applied to it. -/
  | map
  deriving DecidableEq, Repr

/-- The name of a count mode. -/
def CountMode.name : CountMode → String
  | server => "server"
  | client => "client"

/-- The name of a processing mode. -/
def ProcessingMode.name : ProcessingMode → String
  | forEach => "forEach"
  | map => "map"

/-- The options of an operation. -/
structure QueryOptions where
  /-- The order of the documents. -/
  sort : Option Json := none
  /-- The largest number of documents. -/
  limit : Option Int64 := none
  /-- How many documents are passed over. -/
  skip : Option Int64 := none
  /-- The index to use. -/
  hint : Option Json := none
  /-- A note for the server's log. -/
  comment : Option String := none
  /-- The milliseconds the server may take. -/
  maxTimeMS : Option Int64 := none
  /-- Whether the server may use its disk. -/
  allowDiskUse : Option Bool := none
  /-- How many documents come in one reply. -/
  batchSize : Option Int64 := none
  /-- The rules for comparing strings. -/
  collation : Option Json := none
  /-- How settled the data has to be. -/
  readConcern : Option String := none
  /-- Which servers may answer. -/
  readPreference : Option String := none
  /-- Whether the cursor stays open when it is idle. -/
  noCursorTimeout : Option Bool := none
  /-- Whether only the keys of the index are wanted. -/
  returnKey : Option Bool := none
  /-- Whether documents carry their record number. -/
  showRecordId : Option Bool := none
  /-- Whether the operation is for many documents. -/
  many : Bool := false
  /-- Whether the result is written on several lines. -/
  pretty : Option Bool := none
  /-- The function to call for each document. -/
  forEach : Option FunctionLiteral := none
  /-- The function to apply to each document. -/
  map : Option FunctionLiteral := none
  /-- Which of the two functions came last. -/
  processingMode : Option ProcessingMode := none
  /-- Who counts. -/
  countMode : Option CountMode := none
  /-- The fields that are wanted. -/
  projection : Option Json := none
  /-- Whether an update adds a document when none matches. -/
  upsert : Option Bool := none

/-- What a statement means. -/
structure Descriptor where
  /-- The collection. -/
  collection : String
  /-- The kind of the operation. -/
  kind : OperationKind
  /-- The filter, documents, pipeline or whatever the kind calls for. -/
  data : Json
  /-- The options. -/
  options : QueryOptions
  /-- The chained calls as they were written. -/
  calls : List CursorCall

/-- Whether the documents of a find are to be counted. -/
def Descriptor.isClientCount (d : Descriptor) : Bool :=
  d.kind == .count && d.options.countMode == some .client

end ShellQuery
