import ShellQuery.Connection.Client
import ShellQuery.Connection.Retry

/-!
# Connections

A connection belongs to one connection string.  It is opened and closed, and it
knows the database that statements are for.  While it has a client, statements can
be sent.

Opening reads the connection string, whose database comes before the configured
one, and attempts to make a client.  A connection that fails to open again keeps the
client that it had.  If the attempts are stopped by a number that is no word, the
connection is left as it was while it was being opened.
-/

namespace ShellQuery

/-- How things are with a connection. -/
inductive ConnectionState where
  /-- It is closed. -/
  | disconnected
  /-- It is being opened. -/
  | connecting
  /-- It is open. -/
  | connected
  /-- It failed to open, for the given reason. -/
  | failed (text : String)
  deriving DecidableEq, Repr

/-- A connection. -/
structure Connection where
  /-- The settings. -/
  config : ConnectionConfig
  /-- The connection string, as text. -/
  uri : String
  /-- The database that statements are for. -/
  database : String
  /-- How things are. -/
  state : ConnectionState := .disconnected
  /-- The options of the client, if there is one. -/
  client : Option ClientOptions := none
  deriving DecidableEq, Repr

/-- What opening a connection has come to. -/
structure Opening (State : Type) where
  /-- The connection. -/
  connection : Connection
  /-- The state of the server. -/
  server : State
  /-- The waits between attempts, in milliseconds. -/
  waits : List Nat := []
  /-- Whether the connection is open, or else why not. -/
  outcome : Outcome ConnectionError Unit

namespace Connection

/-- A connection that is not open yet. -/
def of (uri : String) (config : ConnectionConfig) : Connection :=
  { config := config, uri := uri, database := config.database }

/-- Whether the connection is open. -/
def isConnected (c : Connection) : Bool := c.state == .connected

/-- The client that statements are sent through. -/
def getClient (c : Connection) : Except ConnectionError ClientOptions :=
  match c.client with
  | some o => .ok o
  | none => .error .notConnected

/-- The database that statements are for, if they can be sent. -/
def defaultDatabase (c : Connection) : Except ConnectionError String :=
  c.getClient.map fun _ => c.database

/-- The connection with another database. -/
def setDatabase (c : Connection) (name : String) : Connection := { c with database := name }

/-- The connection, closed. -/
def close (c : Connection) : Connection := { c with state := .disconnected, client := none }

/-- The connection while it is being opened. -/
def starting (c : Connection) : Connection := { c with state := .connecting }

/-- The connection after it failed to open. -/
def fail (c : Connection) (e : ConnectionError) : Connection :=
  { c with state := .failed (QueryError.connection e).message }

/-- The connection with the database of a connection string, if that names one. -/
def choose (c : Connection) (target : ConnectionString) : Connection :=
  { c with database := target.defaultDatabase.getD c.database }

/-- The error of a connection that no attempt has opened. -/
def exhausted (last : Option ConnectionError) : ConnectionError :=
  .connectionFailed ((last.map fun e => (QueryError.connection e).message).getD "")

/-- A connection that is being opened, after the attempts to make a client of it. -/
def settle (c : Connection) (o : ClientOptions) :
    Outcome (Option ConnectionError) Unit → Connection
  | .ok () => { c with state := .connected, client := some o }
  | .error last => c.fail (exhausted last)
  | .overflow => c

variable {State : Type}

/-- Opens a connection whose connection string has been read. -/
def openTo (attempt : ClientOptions → Attempt State ConnectionError Unit) (c : Connection)
    (target : ConnectionString) (server : State) : Opening State :=
  let o := ClientOptions.of target c.config
  let made := Retry.attempts (attempt o) c.config.retryAttempts server
  { connection := (c.starting.choose target).settle o made.outcome
    server := made.state
    waits := made.waits
    outcome := made.outcome.mapError exhausted }

/-- Opens a connection with a way to make a client. -/
def openBy (attempt : ClientOptions → Attempt State ConnectionError Unit) (c : Connection)
    (server : State) : Opening State :=
  match ConnectionString.parse c.uri with
  | .error e =>
      { connection := c.fail (.invalidUri e.text)
        server := server
        outcome := .error (.invalidUri e.text) }
  | .ok target => openTo attempt c target server

/-- With a connection string that can be read, opening a connection makes attempts. -/
theorem openBy_of_target {attempt : ClientOptions → Attempt State ConnectionError Unit}
    {c : Connection} {server : State} {target : ConnectionString}
    (htarget : ConnectionString.parse c.uri = .ok target) :
    openBy attempt c server = openTo attempt c target server := by
  rw [openBy, htarget]

/-- Opens a connection to a server. -/
def connect (server : Server State) (c : Connection) (state : State) : Opening State :=
  openBy (Client.attempt server) c state

end Connection

end ShellQuery
