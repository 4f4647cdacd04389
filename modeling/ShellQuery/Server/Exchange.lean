import ShellQuery.Error.Query
import ShellQuery.Server.Reply

/-!
# Exchanges with a server

A server is an arbitrary function on a state: it takes a command to a reply, or to
the reason why there is none.  An exchange sends commands and reads the replies.  It
threads the state of the server through them, also past an error.

A read whose error may be gone at a second try is sent once more.  A cursor is read
batch by batch until the server says that it is finished, or its documents are counted
on the way, and documents are added until the server has taken all of them.  These loops
stop after a number of replies that the caller chooses.
-/

namespace ShellQuery

/-- Something that answers commands and keeps a state. -/
abbrev Server (State : Type) := State → Command → State × Except DriverError Document

/-- The server that cannot be reached. -/
def Server.unreachable : Server Unit := fun state _ =>
  (state, .error (.serverSelection "Server selection timeout: No available servers."))

/-- A computation that talks to a server and may fail. -/
abbrev Exchange (State α : Type) := ExceptT QueryError (StateM State) α

namespace Exchange

variable {State α : Type}

/-- An outcome that needs no server. -/
def ofDriver (r : Except DriverError α) : Exchange State α :=
  ExceptT.mk (pure (r.mapError .driver))

/-- An outcome of reading arguments. -/
def ofExecution (r : Except ExecutionError α) : Exchange State α :=
  ExceptT.mk (pure (r.mapError .execution))

/-- Sends a command and gives back a reply that says that it succeeded. -/
def reply (server : Server State) (c : Command) :
    StateM State (Except DriverError Document) := fun state =>
  let (next, answer) := server state c
  (answer.bind Reply.check, next)

/-- Sends a command that is not sent again. -/
def send (server : Server State) (c : Command) : Exchange State Document := do
  let answer ← reply server c
  ofDriver answer

/-- Sends a read.  It is sent once more if its error may be gone then. -/
def sendRead (retry : Bool) (server : Server State) (c : Command) : Exchange State Document := do
  let answer ← reply server c
  match answer with
  | .ok doc => pure doc
  | .error e => if retry && Reply.isTransient e then send server c else ofDriver (.error e)

/-- The error of an exchange that takes more replies than the caller waits for. -/
def endless : DriverError := .invalidResponse "the server does not come to an end"

/-- Opens a cursor by a read, and takes its first batch. -/
def openCursor (server : Server State) (retry : Bool) (c : Command) :
    Exchange State Reply.Batch := do
  let doc ← sendRead retry server c
  ofDriver (Reply.batch "firstBatch" doc)

/-- Reads the rest of a cursor.  `patience` bounds the number of replies. -/
def restOfCursor (server : Server State) (batchSize : Option Nat) :
    Nat → Reply.Batch → Exchange State (List Document)
  | patience, batch =>
      if batch.cursor = 0 then pure batch.docs
      else
        match patience with
        | 0 => ofDriver (.error endless)
        | patience + 1 => do
            let doc ← send server (.getMore batch.ns batch.cursor batchSize)
            let next ← ofDriver (Reply.batch "nextBatch" doc)
            let docs ← restOfCursor server batchSize patience next
            pure (batch.docs ++ docs)

/-- The documents of the cursor that a read opens. -/
def readCursor (server : Server State) (retry : Bool) (patience : Nat) (batchSize : Option Nat)
    (c : Command) : Exchange State (List Document) := do
  let batch ← openCursor server retry c
  restOfCursor server batchSize patience batch

/-- Moves past documents, one after the other, and counts them. -/
def countBatch (counted : Nat) : List Document → Nat
  | [] => counted
  | _ :: rest => countBatch (counted + 1) rest

/-- Moves past the rest of a cursor, and counts its documents.  `patience` bounds the number
of replies. -/
def countRest (server : Server State) (batchSize : Option Nat) :
    (patience counted : Nat) → Reply.Batch → Exchange State Nat
  | patience, counted, batch =>
      let counted := countBatch counted batch.docs
      if batch.cursor = 0 then pure counted
      else
        match patience with
        | 0 => ofDriver (.error endless)
        | patience + 1 => do
            let doc ← send server (.getMore batch.ns batch.cursor batchSize)
            let next ← ofDriver (Reply.batch "nextBatch" doc)
            countRest server batchSize patience counted next

/-- Adds documents.  What the server did not take is sent again.  `patience` bounds the
number of replies. -/
def insertAll (server : Server State) (ns : Namespace) :
    Nat → List Document → Exchange State Unit
  | _, [] => pure ()
  | 0, _ :: _ => ofDriver (.error endless)
  | patience + 1, docs@(_ :: _) => do
      let doc ← send server (.insert ns docs)
      let n ← ofDriver (Reply.written doc)
      insertAll server ns patience (docs.drop n)

end Exchange

end ShellQuery
