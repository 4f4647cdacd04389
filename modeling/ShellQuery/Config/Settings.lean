import ShellQuery.Error.Query
import ShellQuery.Execution.Format
import ShellQuery.Text.Blank

/-!
# Settings

The settings of the program: how it connects, how it shows results and what it logs.
Each has a default.  `Config.validate` names the first setting, in a fixed order,
whose value makes no sense.
-/

namespace ShellQuery

/-- How to connect. -/
structure ConnectionConfig where
  /-- The connection string. -/
  defaultUri : String := "mongodb://localhost:27017"
  /-- The database to use if the connection string names none. -/
  database : String := "test"
  /-- How many seconds to wait for a server. -/
  timeout : UInt64 := 30
  /-- How often to try again after the first attempt. -/
  retryAttempts : UInt32 := 3
  /-- The largest number of connections. -/
  maxPoolSize : UInt32 := 10
  /-- The least number of connections. -/
  minPoolSize : UInt32 := 2
  /-- How many seconds a connection may be idle. -/
  idleTimeout : UInt64 := 300
  /-- The name of the program for the server. -/
  appName : String := "mongoquery"
  deriving DecidableEq, Repr

/-- How results are written. -/
inductive OutputFormat where
  /-- On one line. -/
  | json
  /-- On several lines. -/
  | jsonPretty
  deriving DecidableEq, Repr

namespace OutputFormat

/-- The name of a format. -/
def name : OutputFormat → String
  | json => "json"
  | jsonPretty => "json-pretty"

/-- Every format. -/
def all : List OutputFormat := [json, jsonPretty]

/-- Whether a result takes several lines. -/
def isPretty (f : OutputFormat) : Bool := f == jsonPretty

end OutputFormat

/-- How to show results. -/
structure DisplayConfig where
  /-- The format. -/
  format : OutputFormat := .jsonPretty
  /-- Whether text is coloured. -/
  colorOutput : Bool := true
  /-- How many spaces a level is indented. -/
  indent : UInt64 := 2
  deriving DecidableEq, Repr

/-- How much to log. -/
inductive LogLevel where
  /-- Errors. -/
  | error
  /-- Warnings too. -/
  | warn
  /-- What happens. -/
  | info
  /-- What happens in detail. -/
  | debug
  /-- Everything. -/
  | trace
  deriving DecidableEq, Repr

namespace LogLevel

/-- The name of a level. -/
def name : LogLevel → String
  | error => "error"
  | warn => "warn"
  | info => "info"
  | debug => "debug"
  | trace => "trace"

/-- Every level. -/
def all : List LogLevel := [error, warn, info, debug, trace]

end LogLevel

/-- What to log. -/
structure LoggingConfig where
  /-- The level. -/
  level : LogLevel := .warn
  /-- Whether the time is logged. -/
  timestamps : Bool := false
  deriving DecidableEq, Repr

/-- The settings of the program. -/
structure Config where
  /-- How to connect. -/
  connection : ConnectionConfig := {}
  /-- How to show results. -/
  display : DisplayConfig := {}
  /-- What to log. -/
  logging : LoggingConfig := {}
  deriving DecidableEq, Repr

/-- The formatter for a way of showing results. -/
def Formatter.ofConfig (c : DisplayConfig) : Formatter :=
  { pretty := c.format.isPretty, colors := c.colorOutput, indent := c.indent.toNat }

/-! ## Validation -/

/-- The schemes of a connection string. -/
def uriSchemes : List String := ["mongodb://", "mongodb+srv://"]

/-- Whether a connection string has a scheme and something behind it. -/
def hasHost (uri : String) : Bool :=
  uriSchemes.any fun scheme => scheme.toList.isPrefixOf uri.toList && scheme != uri

namespace Config

/-- A check of a setting: its name, its value as text and whether it makes sense. -/
structure Check where
  /-- The name of the setting. -/
  field : String
  /-- Its value. -/
  value : String
  /-- Whether the value makes sense. -/
  holds : Bool

/-- The checks, in order. -/
def checks (c : Config) : List Check :=
  let uri := Text.trimString c.connection.defaultUri
  [ ⟨"connection.default_uri", uri, hasHost uri⟩,
    ⟨"connection.timeout", "0", c.connection.timeout != 0⟩,
    ⟨"connection.idle_timeout", "0", c.connection.idleTimeout != 0⟩,
    ⟨"connection.max_pool_size", "0", c.connection.maxPoolSize != 0⟩,
    ⟨"connection.min_pool_size", toString c.connection.minPoolSize,
      c.connection.minPoolSize ≤ c.connection.maxPoolSize⟩,
    ⟨"connection.database", "", !c.connection.database.isEmpty⟩,
    ⟨"display.indent", "0", !(c.display.format.isPretty && c.display.indent == 0)⟩ ]

/-- The first setting whose value makes no sense. -/
def validate (c : Config) : Except ConfigError Unit :=
  match c.checks.find? (!·.holds) with
  | some check => .error (.invalidValue check.field check.value)
  | none => .ok ()

example : (Config.mk {} {} {}).validate.isOk = true := by decide +kernel

end Config

end ShellQuery
