import ShellQuery.Connection.Address
import ShellQuery.Connection.UriOption
import ShellQuery.Error.Driver

/-!
# Connection strings

A connection string has a scheme, credentials, addresses, a database and options:

    mongodb://[username:password@]host[:port][/database][?options]

The options begin at the first question mark, the credentials end at the last at
sign before it, and the database is what follows the first slash behind them.  The
database is percent encoded, and so are the credentials.

The parts are checked from left to right, except that the addresses come before the
credentials.
-/

namespace ShellQuery

/-- What a connection string says. -/
structure ConnectionString where
  /-- Where servers listen. -/
  hosts : List ServerAddress
  /-- The name of the user. -/
  username : Option String := none
  /-- The password. -/
  password : Option String := none
  /-- The database that is named. -/
  defaultDatabase : Option String := none
  /-- The options. -/
  options : UriOption.Options := []
  deriving DecidableEq, Repr

namespace ConnectionString

/-! ## Parts -/

/-- The text before the first place of a separator and the text behind it. -/
def cutAtText (sep : List Char) : List Char → Option (List Char × List Char)
  | [] => if sep.isEmpty then some ([], []) else none
  | c :: rest =>
      if sep.isPrefixOf (c :: rest) then some ([], (c :: rest).drop sep.length)
      else (cutAtText sep rest).map fun (before, after) => (c :: before, after)

/-- The text before the last place of a character and the text behind it. -/
def cutAtLast (sep : Char) (text : List Char) : Option (List Char × List Char) :=
  (ServerAddress.cutAt sep text.reverse).map fun (after, before) =>
    (before.reverse, after.reverse)

/-- A text that may be followed by a separator and another text. -/
def splitFirst (sep : Char) (text : List Char) : List Char × Option (List Char) :=
  match ServerAddress.cutAt sep text with
  | some (before, after) => (before, some after)
  | none => (text, none)

/-- The characters that credentials must not have. -/
def reserved : List Char := [':', '/', '?', '#', '[', ']', '@']

/-- Reads a name or a password. -/
def readCredential (kind : String) (text : List Char) : Except String String :=
  if text.any reserved.contains then .error (kind ++ " must be URL encoded")
  else if !Text.percentSignsPaired text then .error (kind ++ " cannot contain unescaped %")
  else
    match Text.percentDecode? (String.ofList text) with
    | some s => .ok s
    | none => .error (kind ++ " must be URL encoded")

/-- Reads credentials. -/
def readCredentials (text : List Char) : Except String (String × Option String) := do
  let (user, password?) := splitFirst ':' text
  if user.isEmpty then .error "username cannot be empty"
  else
    let user ← readCredential "username" user
    match password? with
    | none => .ok (user, none)
    | some password => do
        let password ← readCredential "password" password
        .ok (user, some password)

/-- The characters that the name of a database must not have. -/
def illegalInDatabase : List Char := ['/', '\\', ' ', '"', '$', '.']

/-- Reads the name of a database.  There may be none. -/
def readDatabase (text : List Char) : Except String (Option String) :=
  if text.isEmpty then .ok none
  else
    match Text.percentDecode? (String.ofList text) with
    | none => .error "database name must be URL encoded"
    | some name =>
        if name.toList.any illegalInDatabase.contains then
          .error "illegal character in database name"
        else .ok (some name)

/-- What is wrong with the addresses of a connection string whose servers are looked
up by name.  The servers are those that a resolver finds for the name, over a network.
This library reads a connection string without one.  So it refuses such a string even if
its one address is right, as a driver does that is built without a resolver. -/
def checkLookup : List ServerAddress → Except String Unit
  | [.host _ none] =>
      .error ("mongodb+srv connection strings cannot be used when the 'dns-resolver' feature is "
        ++ "disabled")
  | [.host _ (some _)] => .error "a port cannot be specified with 'mongodb+srv'"
  | [.socket _] => .error "unix sockets cannot be used with 'mongodb+srv'"
  | _ => .error "exactly one host must be specified with 'mongodb+srv'"

/-- The mechanism of authentication that is named. -/
def mechanism? (c : ConnectionString) : Option AuthMechanism :=
  (UriOption.value? c.options "authmechanism").bind fun s => (AuthMechanism.parse s).toOption

/-- What is wrong with the credentials for their mechanism. -/
def checkMechanism (c : ConnectionString) : Except String Unit :=
  match c.mechanism? with
  | some .plain =>
      if c.username.isNone then .error "No username provided for PLAIN authentication"
      else if c.password.isNone then .error "No password provided for PLAIN authentication"
      else .ok ()
  | some m =>
      if m.family = "SCRAM" && c.username.isNone then
        .error "No username provided for SCRAM authentication"
      else .ok ()
  | none => .ok ()

/-- Whether a flag is set. -/
def isSet (c : ConnectionString) (name : String) : Bool :=
  UriOption.value? c.options name == some "true"

/-- What is wrong with the parts taken together. -/
def checkTogether (c : ConnectionString) : Except String Unit :=
  let value? := UriOption.value? c.options
  if c.isSet "directconnection" && 1 < c.hosts.length then
    .error "cannot specify multiple seeds with directConnection=true"
  else if (value? "w").bind UriOption.int32? == some 0 && c.isSet "journal" then
    .error "write concern cannot have w=0 and j=true"
  else if c.isSet "loadbalanced" && 1 < c.hosts.length then
    .error "cannot specify multiple seeds with loadBalanced=true"
  else if c.isSet "loadbalanced" && (value? "replicaset").isSome then
    .error "cannot specify replicaSet with loadBalanced=true"
  else if c.isSet "loadbalanced" && c.isSet "directconnection" then
    .error "cannot specify directConnection=true with loadBalanced=true"
  else if (value? "maxpoolsize").bind (UriOption.bounded? Width.words32) == some 0 then
    .error "cannot specify maxPoolSize=0"
  else .ok ()

/-! ## The whole -/

/-- Reads a connection string, or says what is wrong with it. -/
def read (uri : String) : Except String ConnectionString :=
  match cutAtText "://".toList uri.toList with
  | none => .error "connection string contains no scheme"
  | some (scheme, afterScheme) => do
      let lookup := scheme == "mongodb+srv".toList
      if !lookup && scheme != "mongodb".toList then
        .error ("invalid connection string scheme: " ++ String.ofList scheme)
      else
        let (beforeOptions, options?) := splitFirst '?' afterScheme
        let (credentials?, rest) :=
          match cutAtLast '@' beforeOptions with
          | some (credentials, rest) => (some credentials, rest)
          | none => (none, beforeOptions)
        let (addresses, database?) := splitFirst '/' rest
        let hosts ← (addresses.splitOn ',').mapM fun a => ServerAddress.parse (String.ofList a)
        if lookup then checkLookup hosts
        let (username, password) ←
          match credentials? with
          | none => .ok (none, none)
          | some text => do
              let (user, password) ← readCredentials text
              .ok (some user, password)
        let database ← readDatabase (database?.getD [])
        let options ← UriOption.parse (options?.getD [])
        let c : ConnectionString :=
          { hosts := hosts
            username := username
            password := password
            defaultDatabase := database
            options := options }
        checkMechanism c
        checkTogether c
        .ok c

/-- Reads a connection string. -/
def parse (uri : String) : Except DriverError ConnectionString :=
  (read uri).mapError .invalidArgument

end ConnectionString

end ShellQuery
