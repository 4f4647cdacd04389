import ShellQuery.Error.Driver

/-!
# Errors

One type for each stage that can fail, and `QueryError` for all of them.  An error
says what went wrong.  Its wording is in `message`.
-/

namespace ShellQuery

/-- Why a statement is rejected.  No other statement is affected. -/
inductive ParseError where
  /-- The statement is no call of an operation on a collection. -/
  | invalidFormat
  /-- The arguments of the call cannot be read. -/
  | invalidArguments (detail : String)
  /-- The operation is not supported. -/
  | unsupportedOperation (operation : String)
  /-- The statement is blank. -/
  | emptyStatement
  deriving DecidableEq, Repr

/-- The wording of a parse error. -/
def ParseError.message : ParseError → String
  | invalidFormat => "Invalid MongoDB query format. Use: db.collection.operation(parameters)"
  | invalidArguments detail => "error parsing query parameters: " ++ detail
  | unsupportedOperation operation => "Unsupported operation: " ++ operation
  | emptyStatement => "Empty statement"

/-- Why a statement cannot be turned into a request. -/
inductive ExecutionError where
  /-- The arguments have the wrong shape for the operation. -/
  | invalidPayload (detail : String)
  /-- A value of the arguments stands for no database value. -/
  | conversion (detail : String)
  deriving DecidableEq, Repr

/-- The wording of an execution error. -/
def ExecutionError.message : ExecutionError → String
  | invalidPayload detail => "Invalid payload: " ++ detail
  | conversion detail => "Invalid extended JSON: " ++ detail

/-- Why a configuration is not accepted. -/
inductive ConfigError where
  /-- The file does not exist. -/
  | fileNotFound (path : String)
  /-- The text is no configuration. -/
  | invalidFormat (detail : String)
  /-- A field has a value that it must not have. -/
  | invalidValue (field value : String)
  deriving DecidableEq, Repr

/-- The wording of a configuration error. -/
def ConfigError.message : ConfigError → String
  | fileNotFound path => "Config file not found: " ++ path
  | invalidFormat detail => "Invalid config format: " ++ detail
  | invalidValue field value => "Invalid value '" ++ value ++ "' for field '" ++ field ++ "'"

/-- Why there is no connection. -/
inductive ConnectionError where
  /-- Every attempt to connect failed.  The text is that of the last one. -/
  | connectionFailed (detail : String)
  /-- The connection string is not accepted. -/
  | invalidUri (detail : String)
  /-- There was no successful attempt to connect. -/
  | notConnected
  /-- The server does not answer a ping. -/
  | pingFailed (detail : String)
  deriving DecidableEq, Repr

/-- The wording of a connection error. -/
def ConnectionError.message : ConnectionError → String
  | connectionFailed detail => "Failed to connect: " ++ detail
  | invalidUri detail => "Invalid connection URI: " ++ detail
  | notConnected => "Not connected to MongoDB"
  | pingFailed detail => "Ping failed: " ++ detail

/-- Any error. -/
inductive QueryError where
  /-- A statement is rejected. -/
  | parse (e : ParseError)
  /-- A statement cannot be turned into a request. -/
  | execution (e : ExecutionError)
  /-- A configuration is not accepted. -/
  | config (e : ConfigError)
  /-- There is no connection. -/
  | connection (e : ConnectionError)
  /-- Reading a file or a stream fails. -/
  | file (detail : String)
  /-- The driver or the server fails. -/
  | driver (e : DriverError)
  /-- A text is not JSON. -/
  | json (detail : String)
  deriving DecidableEq, Repr

/-- The wording of an error. -/
def QueryError.message : QueryError → String
  | parse e => e.message
  | execution e => "Execution error: " ++ e.message
  | config e => "Configuration error: " ++ e.message
  | connection e => "Connection error: " ++ e.message
  | file detail => "I/O error: " ++ detail
  | driver e => e.report
  | json detail => "JSON error: " ++ detail

end ShellQuery
