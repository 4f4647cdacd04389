import ShellQuery.CommandLine.Scan

/-!
# Arguments of the program

What a command line says once it has been read.  A subcommand is read before the
arguments in front of it are settled, so its faults come first.  A script in a file
and one on the command line exclude each other.
-/

namespace ShellQuery

/-- What the program does instead of running a script. -/
inductive Subcommand where
  /-- It shows its version. -/
  | version
  /-- It shows its settings, or checks the file that they are in, or both. -/
  | config (shows validates : Bool)
  deriving DecidableEq, Repr

/-- The arguments of the program. -/
structure Arguments where
  /-- The file with the script. -/
  script : Option String := none
  /-- The script itself. -/
  eval : Option String := none
  /-- The connection string. -/
  uri : Option String := none
  /-- The database. -/
  database : Option String := none
  /-- The file with the settings. -/
  configFile : Option String := none
  /-- How results are written. -/
  format : Option String := none
  /-- Whether text has no colours. -/
  noColor : Bool := false
  /-- Whether there is more in the log. -/
  verbose : Bool := false
  /-- Whether everything is in the log. -/
  veryVerbose : Bool := false
  /-- How many seconds to wait for a server. -/
  timeout : Option UInt64 := none
  /-- Whether statements are read but not executed. -/
  parseOnly : Bool := false
  /-- What to do instead of running a script. -/
  command : Option Subcommand := none
  deriving DecidableEq, Repr

namespace Arguments

open CommandLine

/-- The arguments of what has been settled. -/
def ofGiven (g : Given) (command : Option Subcommand) : Arguments :=
  { script := g.value? .script
    eval := g.value? .eval
    uri := g.value? .uri
    database := g.value? .database
    configFile := g.value? .config
    format := g.value? .format
    noColor := g.has .noColor
    verbose := g.has .verbose
    veryVerbose := g.has .veryVerbose
    timeout := (g.value? .timeout).bind seconds?
    parseOnly := g.has .parseOnly
    command := command }

/-- What a command without subcommands is given. -/
def readCommand (f : Form) (arguments : List String) : Except ArgumentError Given := do
  let (s, _) ← Scan.run f {} arguments
  let s ← s.settle
  .ok s.given

/-- The outcome of a request for an explanation. -/
def helpOutcome : List String → ArgumentError
  | [] => .displayHelp
  | [name] => if Form.program.subcommands.contains name then .displayHelp else .invalidSubcommand
  | _ => .invalidSubcommand

/-- Reads a subcommand. -/
def readSubcommand (name : String) (arguments : List String) :
    Except ArgumentError Subcommand :=
  match name with
  | "version" => (readCommand Form.versionCommand arguments).map fun _ => .version
  | "config" =>
      (readCommand Form.configCommand arguments).map fun g =>
        .config (g.has .showSettings) (g.has .checkSettings)
  | _ => .error (helpOutcome arguments)

/-- Reads a command line without the name of the program. -/
def parse (arguments : List String) : Except ArgumentError Arguments := do
  let (s, rest?) ← Scan.run Form.program {} arguments
  let command ←
    match rest? with
    | none => .ok none
    | some (name, rest) => (readSubcommand name rest).map some
  let s ← s.settle
  if s.given.has .script && s.given.has .eval then .error .argumentConflict
  else .ok (ofGiven s.given command)

end Arguments

end ShellQuery
