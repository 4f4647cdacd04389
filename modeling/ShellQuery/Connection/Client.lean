import ShellQuery.Config.Settings
import ShellQuery.Connection.Uri
import ShellQuery.Server.Exchange

/-!
# Clients

A client is made from a connection string and from settings for what the string
leaves open.  It is of use once a server has answered a ping.

Before the ping a client introduces itself and presents its credentials.  A server
that belongs to no replica set is no server for a client that asks for a set, or
that names several addresses.
-/

namespace ShellQuery

/-- What a client is made of. -/
structure ClientOptions where
  /-- The connection string. -/
  target : ConnectionString
  /-- The name of the program. -/
  appName : String
  /-- The largest number of connections. -/
  maxPoolSize : Nat
  deriving DecidableEq, Repr

namespace ClientOptions

/-- The options of a connection string.  Settings stand in for what the string leaves
open. -/
def of (c : ConnectionString) (config : ConnectionConfig) : ClientOptions :=
  { target := c
    appName := (UriOption.value? c.options "appname").getD config.appName
    maxPoolSize :=
      ((UriOption.value? c.options "maxpoolsize").bind
        (UriOption.bounded? Width.words32)).getD config.maxPoolSize.toNat }

/-- The replica set that is asked for. -/
def replicaSet? (o : ClientOptions) : Option String :=
  UriOption.value? o.target.options "replicaset"

/-- Whether reads may be sent again. -/
def retryReads (o : ClientOptions) : Bool :=
  UriOption.value? o.target.options "retryreads" != some "false"

/-- How credentials are presented, if there are any. -/
def mechanism? (o : ClientOptions) : Option AuthMechanism :=
  match o.target.mechanism? with
  | some m => some m
  | none => if o.target.username.isSome then some .scramSha1 else none

/-- The database of the credentials. -/
def authSource (o : ClientOptions) (m : AuthMechanism) : String :=
  (UriOption.value? o.target.options "authsource").getD
    (m.defaultSource o.target.defaultDatabase)

end ClientOptions

namespace Client

/-- What talks to a server and may fail. -/
abbrev Contact (State α : Type) := ExceptT DriverError (StateM State) α

variable {State : Type}

/-- What is wrong with options, so that there is no client. -/
def check (o : ClientOptions) : Except DriverError Unit :=
  if o.maxPoolSize = 0 then .error (.invalidArgument "cannot specify maxPoolSize=0") else .ok ()

/-! ## Selection -/

/-- The error of a client that finds no server. -/
def noServer (topology : String) : DriverError :=
  .serverSelection ("Server selection timeout: No available servers. Topology: \x7b "
    ++ topology ++ " \x7d")

/-- What is wrong with a server for a client, as its introduction shows. -/
def checkServer (o : ClientOptions) (introduction : Document) : Except DriverError Unit :=
  let setName :=
    match introduction.find? "setName" with
    | some (.string s) => some s
    | _ => none
  match o.replicaSet? with
  | some wanted =>
      if setName = some wanted then .ok ()
      else .error (noServer ("Type: ReplicaSetNoPrimary, Set Name: " ++ wanted))
  | none =>
      if setName.isNone && 1 < o.target.hosts.length then .error (noServer "Type: Unknown")
      else .ok ()

/-! ## Credentials -/

/-- Credentials that are not accepted. -/
def refused (m : AuthMechanism) (reason : String) : DriverError :=
  .authentication (m.family ++ " failure: " ++ reason)

/-- The text of a reply that refuses credentials. -/
def refusal (reply : Document) : String :=
  match reply.find? "errmsg" with
  | some (.string s) => s
  | _ => "Authentication failure"

/-- Whether a reply accepts credentials.  A challenge has to be met, which takes more
than this library knows. -/
def checkCredentials (m : AuthMechanism) (reply : Document) : Except DriverError Unit :=
  match (reply.find? "ok").bind Reply.int? with
  | none => .error (refused m "invalid server response")
  | some 1 =>
      match m, reply.find? "done" with
      | .plain, some (.bool true) => .ok ()
      | _, _ => .error (refused m "invalid server response")
  | some _ => .error (refused m (refusal reply))

/-- Presents credentials. -/
def authenticate (server : Server State) (o : ClientOptions) (m : AuthMechanism) :
    Contact State Unit := do
  let start ← ExceptT.mk fun state =>
    let (state, reply) := server state (.saslStart (o.authSource m) m.name)
    (reply, state)
  ExceptT.mk (pure (checkCredentials m start))

/-! ## Contact -/

/-- Sends a command that has to succeed. -/
def send (server : Server State) (c : Command) : Contact State Document :=
  ExceptT.mk (Exchange.reply server c)

/-- Finds the server, presents credentials and sends a ping. -/
def ping (server : Server State) (o : ClientOptions) : Contact State Unit := do
  let introduction ← send server (.hello o.appName)
  ExceptT.mk (pure (checkServer o introduction))
  match o.mechanism? with
  | some m => authenticate server o m
  | none => pure ()
  let _ ← send server .ping
  pure ()

/-- Makes a client of which a server has answered a ping. -/
def attempt (server : Server State) (o : ClientOptions) :
    State → State × Except ConnectionError Unit := fun state =>
  match check o with
  | .error e => (state, .error (.connectionFailed e.text))
  | .ok () =>
      let (answer, state) := (ping server o).run state
      (state, answer.mapError fun e => .pingFailed e.text)

end Client

end ShellQuery
