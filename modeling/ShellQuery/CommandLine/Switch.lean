/-!
# Switches

What a command line is made of: a command takes switches, a script and perhaps a
subcommand.  A switch has a long name, some have a letter too, and some take a
value.

The tables here say which there are.  How a list of arguments is read with them is
said in `CommandLine.Arguments`.
-/

namespace ShellQuery.CommandLine

/-- What an argument is about. -/
inductive Topic where
  /-- The file with the script. -/
  | script
  /-- The script itself. -/
  | eval
  /-- The connection string. -/
  | uri
  /-- The database. -/
  | database
  /-- The file with the settings. -/
  | config
  /-- How results are written. -/
  | format
  /-- Text without colours. -/
  | noColor
  /-- More in the log. -/
  | verbose
  /-- Everything in the log. -/
  | veryVerbose
  /-- How long to wait for a server. -/
  | timeout
  /-- Statements are read but not executed. -/
  | parseOnly
  /-- The settings are shown. -/
  | showSettings
  /-- The file with the settings is checked. -/
  | checkSettings
  /-- The command is explained. -/
  | help
  /-- The version is shown. -/
  | version
  deriving DecidableEq, Repr

/-- A switch of a command. -/
structure Switch where
  /-- What it is about. -/
  topic : Topic
  /-- Its letter. -/
  letter : Option Char := none
  /-- Its name. -/
  name : String
  /-- Whether it takes a value. -/
  takesValue : Bool := false
  /-- What it does, for a reader. -/
  about : String

/-- A command and what can be said to it. -/
structure Form where
  /-- The switches. -/
  switches : List Switch
  /-- Whether the command takes a script. -/
  takesScript : Bool := false
  /-- The names of the subcommands. -/
  subcommands : List String := []

namespace Form

/-- The switch that explains a command. -/
def helpSwitch : Switch :=
  { topic := .help, letter := some 'h', name := "help", about := "Print help" }

/-- The program. -/
def program : Form :=
  { switches :=
      [ { topic := .eval, letter := some 'e', name := "eval", takesValue := true,
          about := "Statements to run, given inline" },
        { topic := .uri, name := "uri", takesValue := true, about := "MongoDB connection URI" },
        { topic := .database, name := "database", takesValue := true,
          about := "Database name to use" },
        { topic := .config, letter := some 'c', name := "config", takesValue := true,
          about := "Configuration file path" },
        { topic := .format, name := "format", takesValue := true,
          about := "Output format (json, json-pretty)" },
        { topic := .noColor, name := "no-color", about := "Disable colored output" },
        { topic := .verbose, letter := some 'v', name := "verbose",
          about := "Verbose mode (detailed logging)" },
        { topic := .veryVerbose, name := "vv", about := "Very verbose mode (trace logging)" },
        { topic := .timeout, name := "timeout", takesValue := true,
          about := "Connection timeout in seconds" },
        { topic := .parseOnly, name := "parse-only",
          about := "Print operation descriptors without connecting" },
        helpSwitch,
        { topic := .version, letter := some 'V', name := "version", about := "Print version" } ]
    takesScript := true
    subcommands := ["version", "config", "help"] }

/-- The subcommand that shows the version. -/
def versionCommand : Form := { switches := [helpSwitch] }

/-- The subcommand for settings. -/
def configCommand : Form :=
  { switches :=
      [ { topic := .showSettings, name := "show", about := "Show effective configuration" },
        { topic := .checkSettings, name := "validate", about := "Validate configuration file" },
        helpSwitch ] }

/-- The switch with a name. -/
def byName? (f : Form) (name : String) : Option Switch :=
  f.switches.find? (·.name == name)

/-- The switch with a letter. -/
def byLetter? (f : Form) (c : Char) : Option Switch :=
  f.switches.find? (·.letter == some c)

end Form

end ShellQuery.CommandLine
