import ShellQuery.Json.Printer

/-!
# Errors of the database driver

What the driver or the server reports when an operation fails, and the short
summary that stands for it in a report.

A summary names the class of the error.  Where the server gave a code it also
has the code, a name for the codes that a query is likely to meet, and the
server's message.  A duplicate key gets one message for all collections.
-/

namespace ShellQuery

/-- What the server says about a failed command. -/
structure ServerFault where
  /-- The code. -/
  code : Int
  /-- The name that the server gives the code. -/
  codeName : String
  /-- The message. -/
  message : String
  /-- The labels that the server puts on the error. -/
  labels : List String
  deriving DecidableEq, Repr

/-- An error of the driver. -/
inductive DriverError where
  /-- The driver refuses the operation or the connection string. -/
  | invalidArgument (message : String)
  /-- The credentials are not accepted. -/
  | authentication (message : String)
  /-- No server can take the operation. -/
  | serverSelection (message : String)
  /-- The server refuses a command. -/
  | command (fault : ServerFault)
  /-- A write fails. -/
  | write (code : Int) (message : String)
  /-- A write succeeds but its write concern is not met. -/
  | writeConcern (code : Int) (message : String)
  /-- An insert of many documents fails: codes and messages of the failed writes
  and of the write concern. -/
  | insertMany (writes : List (Int × String)) (concern : Option (Int × String))
  /-- Reading or writing on the connection fails. -/
  | connection (text : String)
  /-- The client is shut down. -/
  | shutdown
  /-- The deployment has no sessions. -/
  | sessionsNotSupported
  /-- The caller's own error. -/
  | custom
  /-- A reply does not have the expected shape. -/
  | invalidResponse (message : String)
  /-- A reply cannot be decoded. -/
  | decoding (message : String)
  deriving DecidableEq, Repr

namespace DriverError

/-- What kind of error it is, with its details. -/
def kindText : DriverError → String
  | invalidArgument message => "An invalid argument was provided: " ++ message
  | authentication message => message
  | serverSelection message => message
  | command fault =>
      "Command failed: Error code " ++ toString fault.code ++ " (" ++ fault.codeName ++ "): "
        ++ fault.message
  | write _ message => message
  | writeConcern _ message => message
  | insertMany _ _ => "An error occurred when trying to execute an insert_many operation"
  | connection text => "I/O error: " ++ text
  | shutdown => "Client has been shut down"
  | sessionsNotSupported =>
      "Attempted to start a session on a deployment that does not support sessions"
  | custom => "Custom user error"
  | invalidResponse message => "The server returned an invalid reply to a database operation: "
      ++ message
  | decoding message => message

/-- The labels of an error. -/
def labels : DriverError → List String
  | command fault => fault.labels
  | _ => []

/-- The full text of an error. -/
def text (e : DriverError) : String :=
  let labels := String.intercalate ", " (e.labels.map fun l => Json.compact (.string l))
  "Kind: " ++ e.kindText ++ ", labels: \x7b" ++ labels ++ "\x7d"

end DriverError

/-- The summary of a driver error. -/
structure DriverErrorInfo where
  /-- The class of the error. -/
  type : Option String := none
  /-- The code that the server gave. -/
  code : Option Int := none
  /-- The name of the code. -/
  name : Option String := none
  /-- The message. -/
  message : Option String := none
  deriving DecidableEq, Repr

namespace DriverErrorInfo

/-- The names of the codes that a query is likely to meet. -/
def codeName? (code : Int) : Option String :=
  if code = 2 then some "BadValue"
  else if code = 11000 || code = 11001 then some "DuplicateKey"
  else if code = 13 then some "Unauthorized"
  else if code = 18 then some "AuthenticationFailed"
  else if code = 26 then some "NamespaceNotFound"
  else if code = 50 then some "MaxTimeMSExpired"
  else if code = 121 then some "DocumentValidationFailure"
  else if code = 292 then some "QueryExceededMemoryLimitNoDiskUseAllowed"
  else none

/-- A summary of a class with a code and a message. -/
def coded (type : String) (code : Int) (message : String) : DriverErrorInfo :=
  { type := some type
    code := some code
    name := codeName? code
    message := some (if code = 11000 || code = 11001 then "Duplicate key error" else message) }

/-- The summary of an error.  Errors of no class of their own have their full text
as message. -/
def ofError : DriverError → DriverErrorInfo
  | .write code message | .writeConcern code message => coded "mongo.write_error" code message
  | .command fault => coded "mongo.command_error" fault.code fault.message
  | .insertMany writes concern =>
      match writes.head?.or concern with
      | some (code, message) => coded "mongo.insert_many_error" code message
      | none => { type := some "mongo.insert_many_error" }
  | .authentication message =>
      { type := some "mongo.authentication_error", message := some message }
  | .invalidArgument message =>
      { type := some "mongo.invalid_argument", message := some message }
  | .serverSelection message =>
      { type := some "mongo.server_selection_error", message := some message }
  | e => { message := some e.text }

/-- The summary as an object.  What is not known is left out. -/
def toJson (info : DriverErrorInfo) : Json :=
  .object <|
    (info.type.map fun t => ("type", .string t)).toList
      ++ (info.code.map fun c => ("code", .int c)).toList
      ++ (info.name.map fun n => ("name", .string n)).toList
      ++ (info.message.map fun m => ("message", .string m)).toList

end DriverErrorInfo

/-- The text of a driver error in a report: its summary on one line. -/
def DriverError.report (e : DriverError) : String :=
  Json.compact (.object [("error", (DriverErrorInfo.ofError e).toJson)])

end ShellQuery
