import ShellQuery.Error.Driver
import ShellQuery.Number.Width
import ShellQuery.Request.Options

/-!
# Commands

What is sent to a server.  A command has a name, the value of its first field, and
more fields, each there only if it has been set.

Lengths of time and batch sizes are 32-bit integers where they fit.  A batch size
that does not fit is refused, and so is an update document that is empty or does
not begin with an update operator.  A negative limit asks for a single batch of
its absolute value.
-/

namespace ShellQuery

/-- A command for a server. -/
structure Command where
  /-- The database. -/
  database : String
  /-- What is asked for. -/
  name : String
  /-- The value of the first field: a collection or a cursor. -/
  target : Bson
  /-- The other fields. -/
  fields : Document

/-- A collection of a database. -/
structure Namespace where
  /-- The database. -/
  database : String
  /-- The collection. -/
  collection : String
  deriving DecidableEq, Repr

/-- Whether an update is for one document or for all that match. -/
inductive Reach where
  /-- The first document that matches. -/
  | one
  /-- All documents that match. -/
  | many
  deriving DecidableEq, Repr

/-- What an update does. -/
inductive Update where
  /-- It applies update operators. -/
  | operators (doc : Document)
  /-- It runs documents through a pipeline. -/
  | pipeline (stages : List Document)

namespace Command

/-! ## Fields -/

/-- The fields that have a value. -/
def present (fields : List (String × Option Bson)) : Document :=
  fields.filterMap fun (name, value?) => value?.map (name, ·)

/-- The largest batch size. -/
def largestBatch : Nat := Width.int32Max.toNat

/-- A natural number, in 32 bits if it fits. -/
def natural (n : Nat) : Bson :=
  if n ≤ largestBatch then .int32 (Int32.ofNat n) else .int64 (Int64.ofNat n)

/-- An array of documents. -/
def documents (docs : List Document) : Bson := .array (docs.map .document)

/-- An index. -/
def hint : Hint → Bson
  | .name s => .string s
  | .keys doc => .document doc

/-- The fields of every read. -/
def readFields (o : ReadOptions) : List (String × Option Bson) :=
  [ ("hint", o.hint.map hint),
    ("comment", o.comment.map .string),
    ("maxTimeMS", o.maxTimeMillis.map natural),
    ("collation", o.collation.map fun c => .document c.toDocument),
    ("readConcern", o.readConcern.map fun level => .document [("level", .string level)]) ]

/-- A command for a collection. -/
def on (ns : Namespace) (name : String) (fields : Document) : Command :=
  { database := ns.database, name := name, target := .string ns.collection, fields := fields }

/-! ## Reads -/

/-- A limit without its sign. -/
def unsignedLimit (n : Int64) : Int64 := if n < 0 then -n else n

/-- Finds documents. -/
def find (ns : Namespace) (filter : Document) (o : FindOptions) : Except DriverError Command :=
  match o.aggregate.batchSize with
  | some size =>
      if largestBatch < size then
        .error (.invalidArgument "The batch size must fit into a signed 32-bit integer")
      else .ok command
  | none => .ok command
where
  /-- The command, without a check of the batch size. -/
  command : Command :=
    .on ns "find" <| present <|
      [ ("filter", some (.document filter)),
        ("sort", o.sort.map .document),
        ("projection", o.projection.map .document),
        ("limit", o.limit.map fun n => .int64 (unsignedLimit n)),
        ("singleBatch", if o.limit.any (· < 0) then some (.bool true) else none),
        ("skip", o.skip.map fun n => .int64 (Int64.ofNat n)),
        ("allowDiskUse", o.aggregate.allowDiskUse.map .bool),
        ("batchSize", o.aggregate.batchSize.map natural),
        ("noCursorTimeout", o.noCursorTimeout.map .bool),
        ("returnKey", o.returnKey.map .bool),
        ("showRecordId", o.showRecordId.map .bool) ]
      ++ readFields o.aggregate.read

/-- Whether a pipeline ends in a stage that writes its documents to a collection. -/
def writesOut (stages : List Document) : Bool :=
  match stages.getLast? with
  | some ((key, _) :: _) => key == "$out" || key == "$merge"
  | _ => false

/-- Runs documents through a pipeline. -/
def aggregate (ns : Namespace) (stages : List Document) (o : AggregateOptions) :
    Except DriverError Command :=
  match o.batchSize with
  | some size =>
      if largestBatch < size then
        .error (.decoding "batch size must be able to fit into a signed 32-bit integer")
      else if writesOut stages then .ok (command [])
      else .ok (command [("batchSize", natural size)])
  | none => .ok (command [])
where
  /-- The command with the options of its cursor. -/
  command (cursor : Document) : Command :=
    .on ns "aggregate" <| present <|
      [ ("pipeline", some (documents stages)),
        ("cursor", some (.document cursor)),
        ("allowDiskUse", o.allowDiskUse.map .bool) ]
      ++ readFields o.read

/-- The stages that count the documents that match a filter. -/
def countStages (filter : Document) : List Document :=
  [ [("$match", .document filter)],
    [("$group", .document [("_id", .int32 1), ("n", .document [("$sum", .int32 1)])])] ]

/-- Counts documents. -/
def count (ns : Namespace) (filter : Document) (o : ReadOptions) : Command :=
  .on ns "aggregate" <| present <|
    [ ("pipeline", some (documents (countStages filter))),
      ("cursor", some (.document [])) ]
    ++ readFields o

/-- Collects the values of a field. -/
def distinct (ns : Namespace) (field : String) (filter : Document) : Command :=
  .on ns "distinct" [("key", .string field), ("query", .document filter)]

/-- Asks for the next batch of a cursor. -/
def getMore (ns : Namespace) (cursor : Int64) (batchSize : Option Nat) : Command :=
  { database := ns.database
    name := "getMore"
    target := .int64 cursor
    fields :=
      present
        [("collection", some (.string ns.collection)), ("batchSize", batchSize.map natural)] }

/-! ## Writes -/

/-- Adds documents. -/
def insert (ns : Namespace) (docs : List Document) : Command :=
  .on ns "insert" [("documents", documents docs), ("ordered", .bool true)]

/-- What is wrong with an update. -/
def checkUpdate : Update → Except DriverError Unit
  | .operators [] => .error (.invalidArgument "update document must not be empty")
  | .operators ((key, _) :: _) =>
      if key.startsWith "$" then .ok ()
      else .error (.invalidArgument "update document must only contain update modifiers")
  | .pipeline _ => .ok ()

/-- An update as the server reads it. -/
def updateValue : Update → Bson
  | .operators doc => .document doc
  | .pipeline stages => documents stages

/-- Changes documents. -/
def update (ns : Namespace) (filter : Document) (u : Update) (upsert : Option Bool)
    (reach : Reach) : Command :=
  let entry :=
    present
      [ ("q", some (.document filter)), ("u", some (updateValue u)), ("upsert", upsert.map .bool),
        ("multi", if reach = .many then some (.bool true) else none) ]
  .on ns "update" [("updates", documents [entry]), ("ordered", .bool true)]

/-- Removes documents. -/
def delete (ns : Namespace) (filter : Document) (reach : Reach) : Command :=
  let entry : Document :=
    [("q", .document filter), ("limit", .int32 (if reach = .many then 0 else 1))]
  .on ns "delete" [("deletes", documents [entry]), ("ordered", .bool true)]

/-! ## Connections -/

/-- Introduces a client by the name of its program. -/
def hello (appName : String) : Command :=
  { database := "admin"
    name := "hello"
    target := .int32 1
    fields := [("client", .document [("application", .document [("name", .string appName)])])] }

/-- Asks whether the server is there. -/
def ping : Command :=
  { database := "admin", name := "ping", target := .int32 1, fields := [] }

/-- Starts to present credentials. -/
def saslStart (source mechanism : String) : Command :=
  { database := source
    name := "saslStart"
    target := .int32 1
    fields := [("mechanism", .string mechanism)] }

end Command

end ShellQuery
