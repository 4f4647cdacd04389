import ShellQuery.Number.Width
import ShellQuery.Server.Command

/-!
# Replies

What comes back from a server, and what the driver makes of it.  A reply that is
not `ok` is a command error.  A write can fail although its reply is `ok`: then the
reply lists the failed writes, or the failed write concern, or both.

A reply of the wrong shape is an error too.
-/

namespace ShellQuery

namespace Reply

/-! ## Fields -/

/-- A reply of the wrong shape. -/
def malformed {α : Type} (message : String) : Except DriverError α :=
  .error (.invalidResponse message)

/-- The integer that a number is. -/
def int? : Bson → Option Int
  | .int32 n => some n.toInt
  | .int64 n => some n.toInt
  | .double x => if x.floor == x then some x.toInt64.toInt else none
  | _ => none

/-- Reads an integer of 32 bits. -/
def readInt32 : Bson → Except String Int
  | .int32 n => .ok n.toInt
  | .int64 n =>
      if Width.isInt32 n.toInt then .ok n.toInt
      else .error ("invalid value: integer \x60" ++ toString n.toInt ++ "\x60, expected i32")
  | value => Bson.wrongType value "i32"

/-- Reads an integer of 64 bits. -/
def readInt64 : Bson → Except String Int64
  | .int32 n => .ok n.toInt64
  | .int64 n => .ok n
  | value => Bson.wrongType value "i64"

/-- Reads a count. -/
def readCount : Bson → Except String Nat := Bson.readUnsigned Width.words64 "u64"

/-- Reads an array. -/
def readArray {α : Type} (item : Bson → Except String α) : Bson → Except String (List α)
  | .array items => items.mapM item
  | value => Bson.wrongType value "a sequence"

/-- Reads a document. -/
def readDocument : Bson → Except String Document
  | .document doc => .ok doc
  | value => Bson.wrongType value "a document"

/-- A field that has to be there. -/
def required {α : Type} (doc : Document) (name : String) (read : Bson → Except String α) :
    Except String α :=
  match doc.find? name with
  | some value => read value
  | none => .error ("missing field \x60" ++ name ++ "\x60")

/-- A field that may be left out. -/
def optional? {α : Type} (doc : Document) (name : String) (read : Bson → Except String α) :
    Except String (Option α) :=
  match doc.find? name with
  | none | some .null => .ok none
  | some value => (read value).map some

/-- Turns a fault of the shape into an error. -/
def shaped {α : Type} : Except String α → Except DriverError α
  | .ok a => .ok a
  | .error message => malformed message

/-! ## Success and failure -/

/-- What a reply says about a failed command. -/
def fault (reply : Document) : Except String ServerFault := do
  let code ← required reply "code" readInt32
  let codeName ← optional? reply "codeName" Bson.readString
  let message ← optional? reply "errmsg" Bson.readString
  let labels ← optional? reply "errorLabels" (readArray Bson.readString)
  .ok
    { code := code
      codeName := codeName.getD ""
      message := message.getD ""
      labels := labels.getD [] }

/-- The reply, if the command succeeded. -/
def check (reply : Document) : Except DriverError Document :=
  match reply.find? "ok" with
  | none => malformed "missing 'ok' value in response"
  | some value =>
      match int? value with
      | none =>
          malformed ("expected ok value to be a number, instead got " ++ value.describe)
      | some 1 => .ok reply
      | some _ =>
          match fault reply with
          | .ok f => .error (.command f)
          | .error e => malformed ("error deserializing command error: " ++ e)

/-- The codes of errors that may be gone at a second try. -/
def transientCodes : List Int :=
  [11600, 11602, 10107, 13435, 13436, 189, 91, 7, 6, 89, 9001, 134, 262]

/-- Whether a read may be sent again after an error. -/
def isTransient : DriverError → Bool
  | .command f => transientCodes.contains f.code
  | _ => false

/-! ## Cursors -/

/-- One batch of the documents of a cursor. -/
structure Batch where
  /-- The cursor.  Zero says that this is the last batch. -/
  cursor : Int64
  /-- Where the next batch is asked for. -/
  ns : Namespace
  /-- The documents. -/
  docs : List Document

/-- Reads a collection with its database: the text around the first dot. -/
def readNamespace (value : Bson) : Except String Namespace := do
  let text ← Bson.readString value
  let chars := text.toList
  match chars.dropWhile (· != '.') with
  | [] => .error "Missing one or more fields in namespace"
  | _ :: collection =>
      .ok ⟨String.ofList (chars.takeWhile (· != '.')), String.ofList collection⟩

/-- The batch of a reply, whose documents are in a field with the given name. -/
def batch (documentsField : String) (reply : Document) : Except DriverError Batch :=
  shaped do
    let cursor ← required reply "cursor" readDocument
    let id ← required cursor "id" readInt64
    let ns ← required cursor "ns" readNamespace
    let docs ← required cursor documentsField (readArray readDocument)
    .ok ⟨id, ns, docs⟩

/-- The count in the first document of a reply. -/
def count (reply : Document) : Except DriverError Nat :=
  shaped do
    let cursor ← required reply "cursor" readDocument
    let docs ← required cursor "firstBatch" (readArray readDocument)
    match docs with
    | [] => .ok 0
    | doc :: _ => required doc "n" readCount

/-- The values of a field. -/
def values (reply : Document) : Except DriverError (List Bson) :=
  shaped (required reply "values" (readArray .ok))

/-! ## Writes -/

/-- Reads the code and the message of a failed write. -/
def readWriteFault (value : Bson) : Except String (Int × String) := do
  let doc ← readDocument value
  let code ← required doc "code" readInt32
  let message ← optional? doc "errmsg" Bson.readString
  .ok (code, message.getD "")

/-- The number of documents of a write, or what failed. -/
def written (reply : Document) : Except DriverError Nat := do
  let (n, writes, concern) ← shaped do
    let n ← required reply "n" readCount
    let writes ← optional? reply "writeErrors" (readArray readWriteFault)
    let concern ← optional? reply "writeConcernError" readWriteFault
    .ok (n, writes, concern)
  if writes.isSome || concern.isSome then .error (.insertMany (writes.getD []) concern)
  else .ok n

/-- The error of a write that is not one of many. -/
def singleWrite : DriverError → DriverError
  | .insertMany ((code, message) :: _) _ => .write code message
  | .insertMany [] (some (code, message)) => .writeConcern code message
  | .insertMany [] none => .invalidResponse "error missing write errors and write concern errors"
  | e => e

/-- What an update did. -/
structure Updated where
  /-- How many documents matched. -/
  matched : Nat
  /-- How many of them changed. -/
  modified : Nat
  /-- The id of a document that was added. -/
  upsertedId : Option Bson

/-- The outcome of an update.  If it added a document then none matched. -/
def updated (reply : Document) : Except DriverError Updated := do
  let (modified, upserted) ← shaped do
    let modified ← required reply "nModified" readCount
    let upserted ← optional? reply "upserted" (readArray readDocument)
    .ok (modified, upserted)
  let n ← (written reply).mapError singleWrite
  let id := upserted.bind fun docs => docs.head?.bind (·.find? "_id")
  .ok ⟨if id.isSome then 0 else n, modified, id⟩

end Reply

end ShellQuery
