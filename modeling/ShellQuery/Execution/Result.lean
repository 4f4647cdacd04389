import ShellQuery.Bson.Extended
import ShellQuery.Operation.Descriptor

/-!
# Results

What the execution of a statement gives: data, and two counts of documents.  Data
is shown in the relaxed form of extended JSON.

A function for the documents of a result is not evaluated.  Its mode is kept, and
an array is shown together with it.
-/

namespace ShellQuery

/-- The data of a result. -/
inductive ResultData where
  /-- Documents. -/
  | documents (docs : List Document)
  /-- One document. -/
  | document (doc : Document)
  /-- The id of a document that was added. -/
  | inserted (id : Bson)
  /-- The ids of documents that were added, in order. -/
  | insertedMany (ids : List Bson)
  /-- How many documents an update matched and changed, and the id of a document
  that it added. -/
  | updated (matched modified : Nat) (upsertedId : Option Bson)
  /-- How many documents were removed. -/
  | deleted (n : Nat)
  /-- How many documents there are. -/
  | counted (n : Nat)
  /-- The values of a field. -/
  | values (vs : List Bson)
  /-- No data. -/
  | none
  deriving Inhabited

/-- Counts of the documents of a result. -/
structure ExecutionStats where
  /-- How many documents or values came back. -/
  returned : Nat := 0
  /-- How many documents a write is about. -/
  affected : Option Nat := .none
  deriving DecidableEq, Repr

/-- The result of executing a statement. -/
structure ExecutionResult where
  /-- The data. -/
  data : ResultData := .none
  /-- The counts. -/
  stats : ExecutionStats := {}
  /-- What is done with each document. -/
  processingMode : Option ProcessingMode := .none
  /-- Why there is no data. -/
  error : Option String := .none

/-- Whether a result has no error. -/
def ExecutionResult.success (r : ExecutionResult) : Bool := r.error.isNone

/-- A result without data. -/
def ExecutionResult.ofError (message : String) : ExecutionResult := { error := some message }

namespace ResultData

/-- An object about a write that the server has taken. -/
def acknowledged (members : JsonMembers) : Json := .object (("acknowledged", .bool true) :: members)

/-- Data in the relaxed form. -/
def toJson : ResultData → Json
  | documents docs => .array (docs.map fun doc => (Bson.document doc).relaxed)
  | document doc => (Bson.document doc).relaxed
  | inserted id => acknowledged [("insertedId", id.relaxed)]
  | insertedMany ids => acknowledged [("insertedIds", .array (ids.map Bson.relaxed))]
  | updated matched modified upsertedId =>
      acknowledged
        ([("matchedCount", .int matched), ("modifiedCount", .int modified)]
          ++ (upsertedId.map fun id => ("upsertedId", id.relaxed)).toList)
  | deleted n => acknowledged [("deletedCount", .int n)]
  | counted n => .int n
  | values vs => .array (vs.map Bson.relaxed)
  | none => .null

end ResultData

/-- A result in the relaxed form.  An array is shown with its processing mode. -/
def ExecutionResult.toJson (r : ExecutionResult) : Json :=
  match r.processingMode, r.data.toJson with
  | some mode, .array docs =>
      .object [("processingMode", .string mode.name), ("documents", .array docs)]
  | _, value => value

end ShellQuery
