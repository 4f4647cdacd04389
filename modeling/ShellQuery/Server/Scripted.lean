import ShellQuery.Server.Exchange

/-!
# A server that follows a script

A server that takes its replies from two lists, one for pings and one for the other
commands, and keeps a record of what it was asked.  When a list is used up it
replies as a server without any documents does.

It is a server on its own: it belongs to no replica set, and it takes a client's
introduction without looking at the lists.
-/

namespace ShellQuery

/-- What is left of the replies of a server that follows a script, and what it was
asked. -/
structure ScriptedServer where
  /-- The replies to commands, in order. -/
  replies : List Document := []
  /-- The replies to pings, in order. -/
  pings : List Document := []
  /-- The commands so far, the last one first. -/
  received : List Command := []
  /-- How many pings there were. -/
  pingCount : Nat := 0
  /-- The name of the program that talks to the server. -/
  appName : Option String := none

namespace ScriptedServer

/-- The field of a reply that succeeds. -/
def okField : String × Bson := ("ok", .int32 1)

/-- A cursor that has no documents. -/
def emptyCursor (c : Command) (documentsField : String) : Document :=
  let collection :=
    match c.target, c.fields.find? "collection" with
    | .string s, _ | _, some (.string s) => s
    | _, _ => ""
  [ ("cursor",
      .document
        [ (documentsField, .array []), ("id", .int64 0),
          ("ns", .string (c.database ++ "." ++ collection)) ]),
    okField ]

/-- How many documents an insert is for. -/
def documentCount (c : Command) : Nat :=
  match c.fields.find? "documents" with
  | some (.array docs) => docs.length
  | _ => 0

/-- The reply of a server without documents. -/
def defaultReply (c : Command) : Document :=
  match c.name with
  | "find" | "aggregate" => emptyCursor c "firstBatch"
  | "getMore" => emptyCursor c "nextBatch"
  | "distinct" => [("values", .array []), okField]
  | "insert" => [("n", Command.natural (documentCount c)), okField]
  | "update" => [("n", .int32 0), ("nModified", .int32 0), okField]
  | "delete" => [("n", .int32 0), okField]
  | _ => [okField]

/-- The next of some replies, or another one if there is none. -/
def next (replies : List Document) (otherwise : Document) : Document × List Document :=
  match replies with
  | [] => (otherwise, [])
  | reply :: rest => (reply, rest)

/-- The name in a client's introduction. -/
def introducedName? (c : Command) : Option String :=
  match c.fields.find? "client" with
  | some (.document [("application", .document [("name", .string name)])]) => some name
  | _ => none

/-- The server. -/
def answer : Server ScriptedServer := fun s c =>
  match c.name with
  | "hello" => ({ s with appName := introducedName? c }, .ok [okField])
  | "ping" =>
      let (reply, rest) := next s.pings [okField]
      ({ s with pings := rest, pingCount := s.pingCount + 1 }, .ok reply)
  | _ =>
      let (reply, rest) := next s.replies (defaultReply c)
      ({ s with replies := rest, received := c :: s.received }, .ok reply)

end ScriptedServer

end ShellQuery
