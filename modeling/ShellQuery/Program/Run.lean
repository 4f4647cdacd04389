import ShellQuery.CommandLine.Setup
import ShellQuery.Connection.Lifecycle
import ShellQuery.Execution.Perform
import ShellQuery.Program.Outcome

/-!
# Running the program

From a command line to an outcome.  The settings are read first, then the subcommand
is carried out or the script is run.  A script is read before a connection is opened,
and statements are only executed on an open connection.

Files, the standard input and the server are arguments.
-/

namespace ShellQuery

/-- What the program finds when it starts. -/
structure Host where
  /-- The directory of the default file with settings. -/
  home : String
  /-- What is in files. -/
  files : Files
  /-- The standard input. -/
  input : Except FileError String
  /-- The current time. -/
  now : Int64 := 0
  /-- The id for a document of an insert that has none, by its place. -/
  freshId : Nat → ObjectId

namespace Program

/-- The name of the program. -/
def name : String := "mongoquery"

/-- The version of the program. -/
def version : String := "0.3.0"

/-- The version of the tools that it needs. -/
def toolVersion : String := "1.91"

/-! ## Subcommands -/

/-- The text of the subcommand for the version. -/
def versionText : String :=
  name ++ " version " ++ version ++ "\nRust version: " ++ toolVersion ++ "\n"

/-- What a check of the file with the settings says. -/
def validationText (files : Files) (path : String) : String :=
  let finding :=
    if !files.has path then "Configuration file does not exist, defaults are in effect"
    else
      match Config.ofFile files path with
      | .ok _ => "Configuration is valid"
      | .error e => "Configuration is invalid: " ++ e.message
  "Validating configuration file: " ++ path ++ "\n" ++ finding ++ "\n"

/-- The settings in effect, without credentials. -/
def settingsText (s : Setup) : String :=
  let connection := s.config.connection
  let shown : Config :=
    { s.config with
      connection := { connection with defaultUri := UriText.sanitize connection.defaultUri } }
  "# Configuration file: " ++ s.configPath ++ "\n" ++ shown.toText

/-- The text of a subcommand. -/
def subcommandText (files : Files) (s : Setup) : Subcommand → String
  | .version => versionText
  | .config shows validates =>
      (if validates then validationText files s.configPath else "")
        ++ (if shows || !validates then settingsText s else "")

/-! ## Scripts -/

variable {State : Type}

/-- The script. -/
def readScript (host : Host) (s : Setup) : Except QueryError String :=
  ((s.script? host.files).getD host.input).mapError FileError.toQueryError

/-- What a run over a connection knows. -/
def runSettings (host : Host) (c : Connection) : RunSettings :=
  { database := c.defaultDatabase.toOption
    now := host.now
    freshId := host.freshId
    retryReads := c.client.all ClientOptions.retryReads }

/-- Runs a script over a connection. -/
def runOn (host : Host) (server : Server State) (c : Connection) (state : State)
    (script : String) : State × List StatementReport :=
  runScript (Executor.ofServer (runSettings host c) server) state script

/-- Opens a connection and runs a script over it. -/
def execute (host : Host) (server : Server State) (s : Setup) (state : State)
    (script : String) : State × Outcome QueryError (List StatementReport) :=
  let opening := (Connection.of s.uri s.config.connection).connect server state
  match opening.outcome with
  | .error e => (opening.server, .error (.connection e))
  | .overflow => (opening.server, .overflow)
  | .ok () =>
      let c := opening.connection.setDatabase s.database
      let (state, reports) := runOn host server c opening.server script
      (state, .ok reports)

/-- What is written about statements. -/
def reportText (s : Setup) (reports : List StatementReport) : String :=
  let text := (Formatter.ofConfig s.config.display).reports reports
  if text.isEmpty then "" else text ++ "\n"

/-- The outcome of a script. -/
def scriptOutcome (s : Setup) (reports : List StatementReport) : ProgramOutcome :=
  { output := reportText s reports, ending := .finished (allSucceeded reports) }

/-- The outcome of an error. -/
def failure (e : QueryError) : ProgramOutcome := { output := "", ending := .failed e }

/-- The outcome of a number that is no word. -/
def overflow : ProgramOutcome := { output := "", ending := .overflow }

/-- Runs the script of a setup. -/
def runScriptOf (host : Host) (server : Server State) (s : Setup) (state : State) :
    State × ProgramOutcome :=
  match readScript host s with
  | .error e => (state, failure e)
  | .ok script =>
      if s.arguments.parseOnly then (state, scriptOutcome s (parseOnly script))
      else
        match execute host server s state script with
        | (state, .ok reports) => (state, scriptOutcome s reports)
        | (state, .error e) => (state, failure e)
        | (state, .overflow) => (state, overflow)

/-! ## The program -/

/-- A line of the explanation of a switch. -/
def switchLine (w : CommandLine.Switch) : String :=
  let letter := (w.letter.map fun c => "-" ++ String.singleton c ++ ", ").getD "    "
  "  " ++ letter ++ "--" ++ w.name ++ (if w.takesValue then " <VALUE>" else "") ++ "  " ++ w.about

/-- The explanation of the program. -/
def helpText : String :=
  let form := CommandLine.Form.program
  "Parse and run MongoDB shell-syntax queries\n\nUsage: " ++ name
    ++ " [OPTIONS] [SCRIPT] [COMMAND]\n\nCommands: "
    ++ String.intercalate ", " form.subcommands ++ "\n\nOptions:\n"
    ++ String.join (form.switches.map fun w => switchLine w ++ "\n")

/-- What is written for a command line that is no order to run anything. -/
def refusalText : CommandLine.ArgumentError → String
  | .displayHelp => helpText
  | .displayVersion => name ++ " " ++ version ++ "\n"
  | _ => ""

/-- Carries out arguments. -/
def runArguments (host : Host) (server : Server State) (a : Arguments) (state : State) :
    State × ProgramOutcome :=
  match Setup.of host.files host.home a with
  | .error e => (state, failure e)
  | .ok s =>
      match a.command with
      | some command =>
          (state,
            { output := subcommandText host.files s command, ending := .finished true })
      | none => runScriptOf host server s state

/-- Runs the program. -/
def run (host : Host) (server : Server State) (arguments : List String) (state : State) :
    State × ProgramOutcome :=
  match Arguments.parse arguments with
  | .error e => (state, { output := refusalText e, ending := .refused e })
  | .ok a => runArguments host server a state

end Program

end ShellQuery
