import ShellQuery.CommandLine.Arguments
import ShellQuery.Config.File
import ShellQuery.Connection.UriText
import ShellQuery.Text.Lower

/-!
# Setting up a run

The arguments of the program together with its settings.  What the command line says
comes before what a file says, and it is not validated.

The database is that of the command line, or else the one that the connection string
seems to name, or else that of the settings.
-/

namespace ShellQuery

namespace OutputFormat

/-- The format that a text names, in any letters. -/
def ofArgument (text : String) : Except ConfigError OutputFormat :=
  match Text.lower text with
  | "json" => .ok .json
  | "json-pretty" | "jsonpretty" => .ok .jsonPretty
  | other => .error (.invalidValue "format" other)

end OutputFormat

namespace Config

/-- Settings with what the command line says about results. -/
def withDisplay (c : DisplayConfig) (a : Arguments) : Except ConfigError DisplayConfig := do
  let format ←
    match a.format with
    | some text => OutputFormat.ofArgument text
    | none => .ok c.format
  .ok { c with format := format, colorOutput := c.colorOutput && !a.noColor }

/-- How much is logged. -/
def levelWith (level : LogLevel) (a : Arguments) : LogLevel :=
  if a.veryVerbose then .trace else if a.verbose then .debug else level

/-- Settings with what the command line says about connections. -/
def withConnection (c : ConnectionConfig) (a : Arguments) : ConnectionConfig :=
  { c with
    timeout := a.timeout.getD c.timeout
    defaultUri := a.uri.getD c.defaultUri
    database := a.database.getD c.database }

/-- Settings with what the command line says. -/
def withArguments (c : Config) (a : Arguments) : Except ConfigError Config := do
  let display ← withDisplay c.display a
  .ok
    { connection := withConnection c.connection a
      display := display
      logging := { c.logging with level := levelWith c.logging.level a } }

end Config

namespace Arguments

/-- The file with the settings. -/
def configPath (home : String) (a : Arguments) : String :=
  a.configFile.getD (Config.defaultPath home)

/-- The files that arguments name. -/
def paths (home : String) (a : Arguments) : List String :=
  a.configPath home :: a.script.toList

/-- Whether the script comes from the standard input. -/
def readsInput (a : Arguments) : Bool := a.command.isNone && a.eval.isNone && a.script.isNone

end Arguments

/-- The arguments of the program with its settings. -/
structure Setup where
  /-- The arguments. -/
  arguments : Arguments
  /-- The settings, with what the arguments say. -/
  config : Config
  /-- The directory of the default file. -/
  home : String
  deriving DecidableEq, Repr

namespace Setup

/-- Reads settings for arguments. -/
def of (files : Files) (home : String) (a : Arguments) : Except QueryError Setup := do
  let config ← Config.load files home a.configFile
  let config ← (config.withArguments a).mapError .config
  .ok { arguments := a, config := config, home := home }

/-- The connection string. -/
def uri (s : Setup) : String := s.arguments.uri.getD s.config.connection.defaultUri

/-- The database. -/
def database (s : Setup) : String :=
  match s.arguments.database with
  | some name => name
  | none =>
      match UriText.database? s.uri.toList with
      | some name => String.ofList name
      | none => s.config.connection.database

/-- The file with the settings. -/
def configPath (s : Setup) : String := s.arguments.configPath s.home

/-- The script, unless it comes from the standard input. -/
def script? (files : Files) (s : Setup) : Option (Except FileError String) :=
  match s.arguments.eval, s.arguments.script with
  | some text, _ => some (.ok text)
  | none, some path => some (files path)
  | none, none => none

end Setup

end ShellQuery
