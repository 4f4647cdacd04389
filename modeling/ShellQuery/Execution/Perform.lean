import ShellQuery.Execution.Run
import ShellQuery.Server.Exchange

/-!
# Performing descriptors

How a descriptor is executed on a server.  Its data and options are converted
first, then a command is sent, and then the reply is turned into a result.  So a
statement with a faulty argument never reaches the server.

A client-side count reads the documents that the plain find would read and counts
them.  Options that are of no use to an operation are not looked at.
-/

namespace ShellQuery

/-- What a run knows besides the server. -/
structure RunSettings where
  /-- The database, if there is a connection. -/
  database : Option String
  /-- The current time. -/
  now : Int64 := 0
  /-- The id for a document of an insert that has none, by its place. -/
  freshId : Nat → ObjectId
  /-- Whether a read may be sent again. -/
  retryReads : Bool := true
  /-- How many replies an exchange waits for. -/
  patience : Nat := 10000

namespace Perform

variable {State : Type}

open Exchange

/-- A result without a processing mode. -/
def result (data : ResultData) (returned : Nat := 0) (affected : Option Nat := none) :
    ExecutionResult :=
  { data := data, stats := { returned := returned, affected := affected } }

/-- A member of an object.  It is `null` if there is none. -/
def member (name : String) (value : Json) : Json := (value.get? name).getD .null

/-! ## Reads -/

/-- The documents of a find. -/
def findDocuments (set : RunSettings) (server : Server State) (ns : Namespace)
    (filter : Document) (o : FindOptions) : Exchange State (List Document) := do
  let command ← ofDriver (Command.find ns filter o)
  readCursor server set.retryReads set.patience o.aggregate.batchSize command

/-- The number of the documents of a find. -/
def countFound (set : RunSettings) (server : Server State) (ns : Namespace)
    (filter : Document) (o : FindOptions) : Exchange State Nat := do
  let command ← ofDriver (Command.find ns filter o)
  let batch ← openCursor server set.retryReads command
  countRest server o.aggregate.batchSize set.patience 0 batch

/-- Finds documents. -/
def find (set : RunSettings) (server : Server State) (ns : Namespace) (d : Descriptor) :
    Exchange State ExecutionResult := do
  let filter ← ofExecution (Bson.documentOfJson set.now d.data)
  let o ← ofExecution (FindOptions.ofQuery set.now d.options)
  let docs ← findDocuments set server ns filter o
  pure (result (.documents docs) docs.length)

/-- Finds one document. -/
def findOne (set : RunSettings) (server : Server State) (ns : Namespace) (d : Descriptor) :
    Exchange State ExecutionResult := do
  let filter ← ofExecution (Bson.documentOfJson set.now d.data)
  let o ← ofExecution (FindOptions.ofQuery set.now d.options)
  let docs ← findDocuments set server ns filter { o with limit := some 1 }
  match docs with
  | [] => pure (result .none)
  | doc :: _ => pure (result (.document doc) docs.length)

/-- Counts documents. -/
def count (set : RunSettings) (server : Server State) (ns : Namespace) (d : Descriptor) :
    Exchange State ExecutionResult := do
  let filter ← ofExecution (Bson.documentOfJson set.now d.data)
  if d.isClientCount then
    let o ← ofExecution (FindOptions.ofQuery set.now d.options)
    let n ← countFound set server ns filter o
    pure (result (.counted n))
  else
    let o ← ofExecution (ReadOptions.ofQuery set.now d.options)
    let doc ← sendRead set.retryReads server (.count ns filter o)
    let n ← ofDriver (Reply.count doc)
    pure (result (.counted n))

/-- Collects the values of a field. -/
def distinct (set : RunSettings) (server : Server State) (ns : Namespace) (d : Descriptor) :
    Exchange State ExecutionResult := do
  match (member "field" d.data).asString? with
  | none | some "" => ofExecution (.error (.invalidPayload "distinct requires a field name"))
  | some field =>
      let filter ← ofExecution (Bson.documentOfJson set.now (member "filter" d.data))
      let doc ← sendRead set.retryReads server (.distinct ns field filter)
      let values ← ofDriver (Reply.values doc)
      pure (result (.values values) values.length)

/-- Runs documents through a pipeline. -/
def aggregate (set : RunSettings) (server : Server State) (ns : Namespace) (d : Descriptor) :
    Exchange State ExecutionResult := do
  let stages ← ofExecution (pipelineOfQuery set.now d.data d.options)
  let o ← ofExecution (AggregateOptions.ofQuery set.now d.options)
  let command ← ofDriver (Command.aggregate ns stages o)
  let retry := set.retryReads && !Command.writesOut stages
  let docs ← readCursor server retry set.patience o.batchSize command
  pure (result (.documents docs) docs.length)

/-! ## Writes -/

/-- A document with an id. -/
def withId (id : ObjectId) (doc : Document) : Document :=
  match doc.find? "_id" with
  | some _ => doc
  | none => ("_id", .objectId id) :: doc

/-- The id of a document that has one. -/
def idOf (doc : Document) : Bson := (doc.find? "_id").getD .null

/-- Documents with ids, where the first has the given place. -/
def withIds (freshId : Nat → ObjectId) : Nat → List Document → List Document
  | _, [] => []
  | place, doc :: rest => withId (freshId place) doc :: withIds freshId (place + 1) rest

/-- Adds one document. -/
def insertOne (set : RunSettings) (server : Server State) (ns : Namespace) (d : Descriptor) :
    Exchange State ExecutionResult := do
  let doc ← ofExecution (Bson.documentOfJson set.now d.data)
  let doc := withId (set.freshId 0) doc
  let answer ← send server (.insert ns [doc])
  let n ← ofDriver ((Reply.written answer).mapError Reply.singleWrite)
  pure (result (.inserted (if n = 0 then .null else idOf doc)) 0 (some 1))

/-- Adds documents. -/
def insertMany (set : RunSettings) (server : Server State) (ns : Namespace) (d : Descriptor) :
    Exchange State ExecutionResult := do
  let docs ← ofExecution (Bson.documentsOfJson set.now d.data)
  if docs.isEmpty then
    ofDriver (.error (.invalidArgument "No documents provided to insert_many"))
  else
    let docs := withIds set.freshId 0 docs
    insertAll server ns set.patience docs
    pure (result (.insertedMany (docs.map idOf)) 0 (some docs.length))

/-- The update that a value describes: an array is a pipeline. -/
def updateOf (now : Int64) : Json → Except ExecutionError Update
  | .array items => (Bson.documentsOfJson now (.array items)).map .pipeline
  | value => (Bson.documentOfJson now value).map .operators

/-- Whether an operation is for one document or for many. -/
def reach (d : Descriptor) : Reach := if d.options.many then .many else .one

/-- Changes documents. -/
def update (set : RunSettings) (server : Server State) (ns : Namespace) (d : Descriptor) :
    Exchange State ExecutionResult := do
  let filter ← ofExecution (Bson.documentOfJson set.now (member "filter" d.data))
  let u ← ofExecution (updateOf set.now (member "update" d.data))
  ofDriver (Command.checkUpdate u)
  let doc ← send server (.update ns filter u d.options.upsert (reach d))
  let outcome ← ofDriver (Reply.updated doc)
  pure
    (result (.updated outcome.matched outcome.modified outcome.upsertedId) 0
      (some outcome.modified))

/-- Removes documents. -/
def delete (set : RunSettings) (server : Server State) (ns : Namespace) (d : Descriptor) :
    Exchange State ExecutionResult := do
  let filter ← ofExecution (Bson.documentOfJson set.now d.data)
  let doc ← send server (.delete ns filter (reach d))
  let n ← ofDriver ((Reply.written doc).mapError Reply.singleWrite)
  pure (result (.deleted n) 0 (some n))

/-! ## All kinds -/

/-- Performs a descriptor on a collection. -/
def onCollection (set : RunSettings) (server : Server State) (ns : Namespace) (d : Descriptor) :
    Exchange State ExecutionResult :=
  match d.kind with
  | .find => find set server ns d
  | .findOne => findOne set server ns d
  | .count => count set server ns d
  | .distinct => distinct set server ns d
  | .aggregate => aggregate set server ns d
  | .insert => if d.options.many then insertMany set server ns d else insertOne set server ns d
  | .update => update set server ns d
  | .delete => delete set server ns d

/-- Performs a descriptor. -/
def descriptor (set : RunSettings) (server : Server State) (d : Descriptor) :
    Exchange State ExecutionResult := do
  match set.database with
  | none => ExceptT.mk (pure (.error (.connection .notConnected)))
  | some database =>
      let r ← onCollection set server ⟨database, d.collection⟩ d
      pure { r with processingMode := d.options.processingMode }

end Perform

/-- The executor that performs descriptors on a server. -/
def Executor.ofServer {State : Type} (set : RunSettings) (server : Server State) :
    Executor State := fun state d =>
  let (answer, next) := (Perform.descriptor set server d).run state
  (next, answer)

end ShellQuery
