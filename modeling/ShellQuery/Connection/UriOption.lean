import ShellQuery.Number.Decimal
import ShellQuery.Number.Width
import ShellQuery.Text.Lower
import ShellQuery.Text.Percent
import ShellQuery.Text.Similarity

/-!
# Options of connection strings

The options behind the question mark of a connection string.  Each is a name and a
value, and a name may come once.  The case of a name does not count.  The kind of an
option says which values it takes, and an unknown name is an error, which mentions
the option of the most similar name.
-/

namespace ShellQuery

/-- How a client presents its credentials. -/
inductive AuthMechanism where
  /-- A challenge and a response, with SHA-1. -/
  | scramSha1
  /-- A challenge and a response, with SHA-256. -/
  | scramSha256
  /-- A certificate. -/
  | x509
  /-- The password itself. -/
  | plain
  /-- A token of another service. -/
  | oidc
  deriving DecidableEq, Repr

namespace AuthMechanism

/-- The name of a mechanism. -/
def name : AuthMechanism → String
  | scramSha1 => "SCRAM-SHA-1"
  | scramSha256 => "SCRAM-SHA-256"
  | x509 => "MONGODB-X509"
  | plain => "PLAIN"
  | oidc => "MONGODB-OIDC"

/-- Every mechanism. -/
def all : List AuthMechanism := [scramSha1, scramSha256, x509, plain, oidc]

/-- The name of a mechanism in error messages. -/
def family : AuthMechanism → String
  | scramSha1 | scramSha256 => "SCRAM"
  | mechanism => mechanism.name

/-- The database of the credentials if none is named. -/
def defaultSource (database : Option String) : AuthMechanism → String
  | scramSha1 | scramSha256 => database.getD "admin"
  | plain => database.getD "$external"
  | x509 | oidc => "$external"

/-- The mechanism with a name. -/
def parse (s : String) : Except String AuthMechanism :=
  match all.find? (·.name == s) with
  | some m => .ok m
  | none =>
      if s = "MONGODB-CR" then
        .error ("MONGODB-CR is deprecated and not supported by this driver. Use SCRAM for "
          ++ "password-based authentication instead")
      else .error ("invalid mechanism string: " ++ s)

end AuthMechanism

namespace UriOption

/-- Which values an option takes. -/
inductive Kind where
  /-- Any text. -/
  | text
  /-- The words for true and false. -/
  | flag
  /-- A length of time in milliseconds. -/
  | millis
  /-- A natural number of 32 bits. -/
  | size
  /-- A length of time of half a second at least. -/
  | heartbeat
  /-- A number of seconds, or -1. -/
  | staleness
  /-- Which servers may answer. -/
  | readPreference
  /-- Pairs of names and values. -/
  | tags
  /-- Pairs of names and values, of which there is at least one. -/
  | properties
  /-- A mechanism of authentication. -/
  | mechanism
  /-- How many servers confirm a write. -/
  | acknowledgment
  /-- How a server is watched. -/
  | monitoring
  /-- How identifiers of 16 bytes are stored. -/
  | uuid
  /-- How hard to compress. -/
  | compression
  deriving DecidableEq, Repr

/-- Every option with its kind. -/
def kinds : List (String × Kind) :=
  [ ("appname", .text), ("authmechanism", .mechanism), ("authsource", .text),
    ("authmechanismproperties", .properties), ("compressors", .text),
    ("connecttimeoutms", .millis), ("directconnection", .flag),
    ("heartbeatfrequencyms", .heartbeat), ("journal", .flag), ("loadbalanced", .flag),
    ("localthresholdms", .millis), ("maxidletimems", .millis),
    ("maxstalenessseconds", .staleness), ("maxpoolsize", .size), ("minpoolsize", .size),
    ("maxconnecting", .size), ("readconcernlevel", .text),
    ("readpreference", .readPreference), ("readpreferencetags", .tags), ("replicaset", .text),
    ("retrywrites", .flag), ("retryreads", .flag), ("servermonitoringmode", .monitoring),
    ("serverselectiontimeoutms", .millis), ("sockettimeoutms", .millis),
    ("srvmaxhosts", .size), ("srvservicename", .text), ("tls", .flag), ("ssl", .flag),
    ("tlsinsecure", .flag), ("tlsallowinvalidcertificates", .flag), ("tlscafile", .text),
    ("tlscertificatekeyfile", .text), ("uuidrepresentation", .uuid), ("w", .acknowledgment),
    ("waitqueuetimeoutms", .millis), ("wtimeoutms", .millis),
    ("zlibcompressionlevel", .compression) ]

/-! ## Values -/

/-- A number of whole units below a bound. -/
def bounded? (bound : Nat) (value : String) : Option Nat :=
  (Decimal.natural? value.toList).filter (· < bound)

/-- A length of time. -/
def millis (name value : String) : Except String Nat :=
  match bounded? Width.words64 value with
  | some n => .ok n
  | none =>
      .error ("connection string \x60" ++ name ++ "\x60 option must be a non-negative integer")

/-- The words for read preferences. -/
def readPreferences : List String :=
  ["primary", "secondary", "primarypreferred", "secondarypreferred", "nearest"]

/-- Checks an integer of 32 bits. -/
def int32? (value : String) : Option Int :=
  (Decimal.integer? value.toList).filter Width.isInt32

/-- Whether a text is a list of pairs with a colon in each. -/
def arePairs (value : String) : Bool :=
  (value.toList.splitOn ',').all fun pair =>
    let before := pair.takeWhile (· != ':')
    !before.isEmpty && before.length + 1 < pair.length

/-- What is wrong with the value of an option. -/
def check (name value : String) : Kind → Except String Unit
  | .text | .tags => .ok ()
  | .flag =>
      if value == "true" || value == "false" then .ok ()
      else .error ("connection string \x60" ++ name ++ "\x60 option must be a boolean")
  | .millis => (millis name value).map fun _ => ()
  | .size =>
      if (bounded? Width.words32 value).isSome then .ok ()
      else .error ("connection string \x60" ++ name ++ "\x60 argument must be a positive integer")
  | .heartbeat => do
      let n ← millis name value
      if n < 500 then
        .error ("'heartbeatFrequencyMS' must be at least 500, but " ++ toString n ++ " was given")
      else .ok ()
  | .staleness =>
      match Decimal.integer? value.toList with
      | some n =>
          if n < -1 then .error "maxStalenessSeconds must be -1 or a non-negative integer"
          else .ok ()
      | none =>
          .error ("connection string \x60" ++ name ++ "\x60 argument must be an integer")
  | .readPreference =>
      let word := Text.lower value
      if readPreferences.contains word then .ok ()
      else .error ("'" ++ word ++ "' is not a valid read preference")
  | .properties =>
      if arePairs value then .ok () else .error "improperly formatted authMechanismProperties"
  | .mechanism => (AuthMechanism.parse value).map fun _ => ()
  | .acknowledgment =>
      if (int32? value).any (· < 0) then
        .error "connection string \x60w\x60 option cannot be a negative integer"
      else .ok ()
  | .monitoring =>
      if ["stream", "poll", "auto"].contains (Text.lower value) then .ok ()
      else .error ("\"" ++ value ++ "\" is not a valid server monitoring mode")
  | .uuid =>
      if ["csharplegacy", "javalegacy", "pythonlegacy"].contains (Text.lower value) then .ok ()
      else
        .error ("connection string \x60uuidRepresentation\x60 option can be one of "
          ++ "\x60csharpLegacy\x60, \x60javaLegacy\x60, or \x60pythonLegacy\x60. "
          ++ "Received invalid \x60" ++ value ++ "\x60")
  | .compression =>
      match int32? value with
      | none =>
          .error ("connection string \x60" ++ name ++ "\x60 argument must be an integer")
      | some n =>
          if n < -1 then .error "'zlibCompressionLevel' cannot be less than -1"
          else if 9 < n then .error "'zlibCompressionLevel' cannot be greater than 9"
          else .ok ()

/-- The option whose name is most like a word, with the measure. -/
def mostSimilar (word : String) : Text.Fraction × String :=
  kinds.foldl (fun best option =>
      let measure := Text.jaroWinkler option.1.toList word.toList
      if Text.Fraction.lt best.1 measure then (measure, option.1) else best)
    (⟨0, 1⟩, "")

/-- The fault of an unknown name. -/
def unknown (name : String) : String :=
  let (measure, option) := mostSimilar name
  name ++ " is an invalid option"
    ++ (if Text.Fraction.le ⟨84, 100⟩ measure then
          ". An option with a similar name exists: " ++ option
        else "")

/-! ## Lists of options -/

/-- Options with their names in small letters. -/
abbrev Options := List (String × String)

/-- Reads one option.  `seen` holds the names so far, as they were written. -/
def readPair (seen : List String) (pair : List Char) : Except String (String × String) :=
  let name := String.ofList (pair.takeWhile (· != '='))
  match pair.dropWhile (· != '=') with
  | [] =>
      .error ("connection string options is not a \x60key=value\x60 pair: " ++ String.ofList pair)
  | _ :: value =>
      if seen.contains name && name != "readPreferenceTags" then
        .error "repeated options are not allowed in the connection string"
      else
        let key := Text.lower name
        let value := Text.percentDecodeLossy (String.ofList value)
        match kinds.lookup key with
        | none => .error (unknown key)
        | some kind => (check key value kind).map fun _ => (key, value)

/-- Reads options one by one. -/
def readPairs (seen : List String) : List (List Char) → Except String Options
  | [] => .ok []
  | pair :: rest => do
      let option ← readPair seen pair
      let options ← readPairs (String.ofList (pair.takeWhile (· != '=')) :: seen) rest
      .ok (option :: options)

/-- The value of the last option with a name. -/
def value? (options : Options) (name : String) : Option String := options.reverse.lookup name

/-- What is wrong with options taken together. -/
def checkTogether (options : Options) : Except String Unit :=
  let mode := (value? options "readpreference").map Text.lower
  let tls := options.filter fun (name, _) => name == "tls" || name == "ssl"
  if tls.any fun (_, v) => some v != tls.head?.map Prod.snd then
    .error "All instances of \x60tls\x60 and \x60ssl\x60 must have the same value"
  else if (value? options "readpreferencetags").isSome && mode.isNone then
    .error "cannot set read preference tags without also setting read preference mode"
  else if (value? options "readpreferencetags").isSome && mode == some "primary" then
    .error "read preference tags can only be specified when a non-primary mode is specified"
  else if (value? options "maxstalenessseconds").any (· != "-1") && mode.isNone then
    .error "cannot set max staleness without also setting read preference mode"
  else if (value? options "maxstalenessseconds").any (· != "-1") && mode == some "primary" then
    .error "max staleness can only be specified when a non-primary mode is specified"
  else .ok ()

/-- Reads the text behind the question mark. -/
def parse (text : List Char) : Except String Options :=
  if text.isEmpty then .ok []
  else do
    let options ← readPairs [] (text.splitOn '&')
    checkTogether options
    .ok options

end UriOption

end ShellQuery
