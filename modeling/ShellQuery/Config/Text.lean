import ShellQuery.Config.Settings
import ShellQuery.Number.Width
import ShellQuery.Toml.Quoted
import ShellQuery.Toml.Reader

/-!
# Settings as text

Settings are kept in a TOML document with a table for each group.  A setting that is
left out has its default, and unknown ones are passed over.  A group may also be an
array of its settings in order.

`Config.ofText` reads and validates settings, and `Config.toText` writes them.
-/

namespace ShellQuery

namespace Config

/-! ## Reading -/

/-- A group of settings: by name, or in order. -/
inductive Group where
  /-- By name. -/
  | named (entries : TomlEntries)
  /-- In order. -/
  | listed (items : List Toml)

/-- The group that a value is. -/
def Group.of : Toml → Option Group
  | .table _ entries => some (.named entries)
  | .array items | .tables items => some (.listed items)
  | _ => none

/-- The value of a setting, by its name and its place. -/
def Group.value? (g : Group) (name : String) (place : Nat) : Option Toml :=
  match g with
  | named entries => Toml.lookup name entries
  | listed items => items[place]?

/-- A setting of a group, or its default. -/
def Group.get {α : Type} (g : Group) (name : String) (place : Nat) (read : Toml → Option α)
    (default : α) : Option α :=
  match g.value? name place with
  | some value => read value
  | none => some default

/-- Reads a string. -/
def readString : Toml → Option String
  | .string s => some s
  | _ => none

/-- Reads a boolean. -/
def readBool : Toml → Option Bool
  | .boolean b => some b
  | _ => none

/-- Reads a natural number below a bound. -/
def readNat (bound : Nat) : Toml → Option Nat
  | .integer n => if 0 ≤ n && n.toNat < bound then some n.toNat else none
  | _ => none

/-- Reads a natural number of 32 bits. -/
def readUInt32 (v : Toml) : Option UInt32 := (readNat Width.words32 v).map UInt32.ofNat

/-- Reads a natural number of 64 bits. -/
def readUInt64 (v : Toml) : Option UInt64 := (readNat Width.words64 v).map UInt64.ofNat

/-- Reads one of some named values.  A table with the name as its one key and nothing
below it will do as well. -/
def readChoice {α : Type} (choices : List (String × α)) : Toml → Option α
  | .string s => choices.lookup s
  | .table _ [(s, .table _ [])] | .table _ [(s, .array [])] => choices.lookup s
  | _ => none

/-- The settings of a connection. -/
def readConnection (v : Toml) : Option ConnectionConfig := do
  let g ← Group.of v
  let d : ConnectionConfig := {}
  some
    { defaultUri := ← g.get "default_uri" 0 readString d.defaultUri
      database := ← g.get "database" 1 readString d.database
      timeout := ← g.get "timeout" 2 readUInt64 d.timeout
      retryAttempts := ← g.get "retry_attempts" 3 readUInt32 d.retryAttempts
      maxPoolSize := ← g.get "max_pool_size" 4 readUInt32 d.maxPoolSize
      minPoolSize := ← g.get "min_pool_size" 5 readUInt32 d.minPoolSize
      idleTimeout := ← g.get "idle_timeout" 6 readUInt64 d.idleTimeout
      appName := ← g.get "app_name" 7 readString d.appName }

/-- The settings of the display. -/
def readDisplay (v : Toml) : Option DisplayConfig := do
  let g ← Group.of v
  let d : DisplayConfig := {}
  let formats := OutputFormat.all.map fun f => (f.name, f)
  some
    { format := ← g.get "format" 0 (readChoice formats) d.format
      colorOutput := ← g.get "color_output" 1 readBool d.colorOutput
      indent := ← g.get "indent" 2 readUInt64 d.indent }

/-- The settings of the log. -/
def readLogging (v : Toml) : Option LoggingConfig := do
  let g ← Group.of v
  let d : LoggingConfig := {}
  let levels := LogLevel.all.map fun l => (l.name, l)
  some
    { level := ← g.get "level" 0 (readChoice levels) d.level
      timestamps := ← g.get "timestamps" 1 readBool d.timestamps }

/-- The settings of a document. -/
def ofEntries (entries : TomlEntries) : Option Config := do
  let g := Group.named entries
  some
    { connection := ← g.get "connection" 0 readConnection {}
      display := ← g.get "display" 1 readDisplay {}
      logging := ← g.get "logging" 2 readLogging {} }

/-- Reads and validates settings. -/
def ofText (text : String) : Except ConfigError Config :=
  match (Toml.parse? text).bind ofEntries with
  | none => .error (.invalidFormat "the text is no configuration")
  | some c => c.validate.map fun _ => c

/-! ## Writing -/

/-- A line that sets a key. -/
def line (key value : String) : String := key ++ " = " ++ value ++ "\n"

/-- A boolean as text. -/
def boolText (b : Bool) : String := if b then "true" else "false"

/-- Settings as text. -/
def toText (c : Config) : String :=
  let n := c.connection
  String.join
    [ "[connection]\n",
      line "default_uri" (Toml.quoted n.defaultUri),
      line "database" (Toml.quoted n.database),
      line "timeout" (toString n.timeout),
      line "retry_attempts" (toString n.retryAttempts),
      line "max_pool_size" (toString n.maxPoolSize),
      line "min_pool_size" (toString n.minPoolSize),
      line "idle_timeout" (toString n.idleTimeout),
      line "app_name" (Toml.quoted n.appName),
      "\n[display]\n",
      line "format" (Toml.quoted c.display.format.name),
      line "color_output" (boolText c.display.colorOutput),
      line "indent" (toString c.display.indent),
      "\n[logging]\n",
      line "level" (Toml.quoted c.logging.level.name),
      line "timestamps" (boolText c.logging.timestamps) ]

end Config

end ShellQuery
