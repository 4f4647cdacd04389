/-!
# Kinds of operations

The operations of the shell fall into eight kinds.  `insertOne` and `insertMany`
are both inserts, `countDocuments` and `count` are both counts, and so on.
-/

namespace ShellQuery

/-- The kind of an operation. -/
inductive OperationKind where
  /-- Reads the documents that match a filter. -/
  | find
  /-- Reads the first document that matches a filter. -/
  | findOne
  /-- Adds documents. -/
  | insert
  /-- Changes documents that match a filter. -/
  | update
  /-- Removes documents that match a filter. -/
  | delete
  /-- Counts the documents that match a filter. -/
  | count
  /-- Runs documents through a pipeline. -/
  | aggregate
  /-- Collects the values of a field. -/
  | distinct
  deriving DecidableEq, Repr

namespace OperationKind

/-- Every kind. -/
def all : List OperationKind :=
  [find, findOne, insert, update, delete, count, aggregate, distinct]

/-- The name of a kind. -/
def name : OperationKind → String
  | find => "find"
  | findOne => "findOne"
  | insert => "insert"
  | update => "update"
  | delete => "delete"
  | count => "count"
  | aggregate => "aggregate"
  | distinct => "distinct"

/-- The kind with a name. -/
def ofName? (name : String) : Option OperationKind := all.find? (·.name == name)

/-- The kind of an operation of the shell.  Names are case sensitive. -/
def ofOperation? (operation : String) : Option OperationKind :=
  match operation with
  | "find" => some find
  | "findOne" => some findOne
  | "insertOne" | "insertMany" => some insert
  | "updateOne" | "updateMany" => some update
  | "deleteOne" | "deleteMany" => some delete
  | "countDocuments" | "count" => some count
  | "aggregate" => some aggregate
  | "distinct" => some distinct
  | _ => none

/-- Whether operations of a kind change no document. -/
def isRead : OperationKind → Bool
  | find | findOne | count | aggregate | distinct => true
  | insert | update | delete => false

end OperationKind

end ShellQuery
