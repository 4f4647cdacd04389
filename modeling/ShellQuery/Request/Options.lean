import ShellQuery.Bson.OfJson
import ShellQuery.Number.Width
import ShellQuery.Operation.Descriptor
import ShellQuery.Request.Collation
import ShellQuery.Text.Lower

/-!
# Options of requests

The options of a descriptor, checked and converted for the kinds of requests that
read data.  `ReadOptions` are those that every such request has.  An aggregation
adds two more, and a find the rest.

A negative number of documents to pass over and a batch size beyond 32 bits are
left out.  A negative time is zero.  Among several faults a sort order comes
first, then a projection, an index, a collation and a read preference.
-/

namespace ShellQuery

/-- The index to use. -/
inductive Hint where
  /-- By its name. -/
  | name (s : String)
  /-- By its keys. -/
  | keys (doc : Document)

/-- Which servers may answer. -/
inductive ReadMode where
  /-- The primary one. -/
  | primary
  /-- Secondary ones. -/
  | secondary
  /-- The primary one if there is one. -/
  | primaryPreferred
  /-- Secondary ones if there are any. -/
  | secondaryPreferred
  /-- The nearest one. -/
  | nearest
  deriving DecidableEq, Repr

namespace ReadMode

/-- The name of a mode. -/
def name : ReadMode → String
  | primary => "primary"
  | secondary => "secondary"
  | primaryPreferred => "primaryPreferred"
  | secondaryPreferred => "secondaryPreferred"
  | nearest => "nearest"

/-- Every mode. -/
def all : List ReadMode := [primary, secondary, primaryPreferred, secondaryPreferred, nearest]

/-- The mode with a name.  The case of letters does not count. -/
def ofName? (s : String) : Option ReadMode :=
  all.find? fun mode => Text.lower mode.name == Text.lower s

end ReadMode

/-- The options of every request that reads data. -/
structure ReadOptions where
  /-- The index to use. -/
  hint : Option Hint := none
  /-- A note for the server's log. -/
  comment : Option String := none
  /-- The milliseconds the server may take. -/
  maxTimeMillis : Option Nat := none
  /-- The rules for comparing strings. -/
  collation : Option Collation := none
  /-- How settled the data has to be. -/
  readConcern : Option String := none
  /-- Which servers may answer. -/
  readPreference : Option ReadMode := none

/-- The options of an aggregation. -/
structure AggregateOptions where
  /-- The options of every read. -/
  read : ReadOptions := {}
  /-- Whether the server may use its disk. -/
  allowDiskUse : Option Bool := none
  /-- How many documents come in one reply. -/
  batchSize : Option Nat := none

/-- The options of a find. -/
structure FindOptions where
  /-- The options that an aggregation has too. -/
  aggregate : AggregateOptions := {}
  /-- The order of the documents. -/
  sort : Option Document := none
  /-- The fields that are wanted. -/
  projection : Option Document := none
  /-- The largest number of documents. -/
  limit : Option Int64 := none
  /-- How many documents are passed over. -/
  skip : Option Nat := none
  /-- Whether the cursor stays open when it is idle. -/
  noCursorTimeout : Option Bool := none
  /-- Whether only the keys of the index are wanted. -/
  returnKey : Option Bool := none
  /-- Whether documents carry their record number. -/
  showRecordId : Option Bool := none

/-- Applies a function that may fail to a value that may be absent. -/
def mapPresent {α β ε : Type} (f : α → Except ε β) : Option α → Except ε (Option β)
  | none => .ok none
  | some a => (f a).map some

namespace Hint

/-- The index that a value names. -/
def ofJson (now : Int64) : Json → Except ExecutionError Hint
  | .string s => .ok (.name s)
  | value => (Bson.documentOfJson now value).map .keys

end Hint

/-- The collation that a value describes. -/
def Collation.ofJson (now : Int64) (value : Json) : Except ExecutionError Collation := do
  let doc ← Bson.documentOfJson now value
  (Collation.ofDocument doc).mapError fun e => .invalidPayload ("invalid collation: " ++ e)

/-- The read mode with a name. -/
def ReadMode.parse (s : String) : Except ExecutionError ReadMode :=
  match ReadMode.ofName? s with
  | some mode => .ok mode
  | none =>
      .error (.invalidPayload
        ("invalid read preference: Unknown read preference mode: " ++ Text.lower s))

/-- A natural number below a bound. -/
def naturalBelow? (bound : Nat) (n : Int64) : Option Nat :=
  if 0 ≤ n.toInt && n.toInt < bound then some n.toInt.toNat else none

/-- The options of a read. -/
def ReadOptions.ofQuery (now : Int64) (o : QueryOptions) : Except ExecutionError ReadOptions := do
  let hint ← mapPresent (Hint.ofJson now) o.hint
  let collation ← mapPresent (Collation.ofJson now) o.collation
  let readPreference ← mapPresent ReadMode.parse o.readPreference
  .ok
    { hint := hint
      comment := o.comment
      maxTimeMillis := o.maxTimeMS.map fun n => n.toInt.toNat
      collation := collation
      readConcern := o.readConcern
      readPreference := readPreference }

/-- The options of an aggregation. -/
def AggregateOptions.ofQuery (now : Int64) (o : QueryOptions) :
    Except ExecutionError AggregateOptions := do
  let read ← ReadOptions.ofQuery now o
  .ok
    { read := read
      allowDiskUse := o.allowDiskUse
      batchSize := o.batchSize.bind (naturalBelow? Width.words32) }

/-- The options of a find. -/
def FindOptions.ofQuery (now : Int64) (o : QueryOptions) : Except ExecutionError FindOptions := do
  let sort ← mapPresent (Bson.documentOfJson now) o.sort
  let projection ← mapPresent (Bson.documentOfJson now) o.projection
  let aggregate ← AggregateOptions.ofQuery now o
  .ok
    { aggregate := aggregate
      sort := sort
      projection := projection
      limit := o.limit
      skip := o.skip.bind (naturalBelow? Width.words64)
      noCursorTimeout := o.noCursorTimeout
      returnKey := o.returnKey
      showRecordId := o.showRecordId }

/-- The stages of a pipeline: those of the data, then the order, the number of
documents to pass over and their largest number. -/
def pipelineOfQuery (now : Int64) (data : Json) (o : QueryOptions) :
    Except ExecutionError (List Document) := do
  let stages ← Bson.documentsOfJson now data
  let sort ← mapPresent (Bson.documentOfJson now) o.sort
  .ok
    (stages ++ (sort.map fun doc => [("$sort", Bson.document doc)]).toList
      ++ (o.skip.map fun n => [("$skip", Bson.int64 n)]).toList
      ++ (o.limit.map fun n => [("$limit", Bson.int64 n)]).toList)

end ShellQuery
