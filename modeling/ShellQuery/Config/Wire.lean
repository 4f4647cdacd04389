import ShellQuery.Config.Settings
import ShellQuery.Json.Decode
import ShellQuery.Number.Width

/-!
# Settings as JSON

Settings are written as an object with an object for each group.  The settings of a
connection can be read back.  A setting that is left out has its default.
-/

namespace ShellQuery

/-- The settings of a connection as an object. -/
def ConnectionConfig.toJson (c : ConnectionConfig) : Json :=
  .object
    [ ("default_uri", .string c.defaultUri),
      ("database", .string c.database),
      ("timeout", .int c.timeout.toNat),
      ("retry_attempts", .int c.retryAttempts.toNat),
      ("max_pool_size", .int c.maxPoolSize.toNat),
      ("min_pool_size", .int c.minPoolSize.toNat),
      ("idle_timeout", .int c.idleTimeout.toNat),
      ("app_name", .string c.appName) ]

/-- The settings of the display as an object. -/
def DisplayConfig.toJson (c : DisplayConfig) : Json :=
  .object
    [ ("format", .string c.format.name),
      ("color_output", .bool c.colorOutput),
      ("indent", .int c.indent.toNat) ]

/-- The settings of the log as an object. -/
def LoggingConfig.toJson (c : LoggingConfig) : Json :=
  .object [("level", .string c.level.name), ("timestamps", .bool c.timestamps)]

/-- Settings as an object. -/
def Config.toJson (c : Config) : Json :=
  .object
    [ ("connection", c.connection.toJson),
      ("display", c.display.toJson),
      ("logging", c.logging.toJson) ]

namespace ConnectionConfig

open Decode

/-- A natural number of 32 bits. -/
def uint32 : Decoder UInt32 := fun value => (unsigned 32 value).map UInt32.ofNat

/-- A natural number of 64 bits. -/
def uint64 : Decoder UInt64 := fun value => (unsigned 64 value).map UInt64.ofNat

/-- The settings of a connection, in order. -/
def fields : List Field :=
  [ defaulted "default_uri" string,
    defaulted "database" string,
    defaulted "timeout" uint64,
    defaulted "retry_attempts" uint32,
    defaulted "max_pool_size" uint32,
    defaulted "min_pool_size" uint32,
    defaulted "idle_timeout" uint64,
    defaulted "app_name" string ]

/-- Reads the settings of a connection. -/
def ofJson : Decoder ConnectionConfig := fun value => do
  let s ← source "ConnectionConfig" fields value
  let d : ConnectionConfig := {}
  .ok
    { defaultUri := ← fieldOr s "default_uri" 0 string d.defaultUri
      database := ← fieldOr s "database" 1 string d.database
      timeout := ← fieldOr s "timeout" 2 uint64 d.timeout
      retryAttempts := ← fieldOr s "retry_attempts" 3 uint32 d.retryAttempts
      maxPoolSize := ← fieldOr s "max_pool_size" 4 uint32 d.maxPoolSize
      minPoolSize := ← fieldOr s "min_pool_size" 5 uint32 d.minPoolSize
      idleTimeout := ← fieldOr s "idle_timeout" 6 uint64 d.idleTimeout
      appName := ← fieldOr s "app_name" 7 string d.appName }

end ConnectionConfig

end ShellQuery
