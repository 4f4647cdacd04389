import ShellQuery.Number.Decimal
import ShellQuery.Text.Lower
import ShellQuery.Text.Percent

/-!
# Server addresses

Where a server listens: a host with a port, or a socket in the file system.  An
address that ends in `.sock` is a socket, and its path is percent encoded.  A host
in brackets is an IPv6 address.
-/

namespace ShellQuery

/-- Where a server listens. -/
inductive ServerAddress where
  /-- A host, and its port if it is named. -/
  | host (name : String) (port : Option Nat)
  /-- A socket in the file system. -/
  | socket (path : String)
  deriving DecidableEq, Repr

namespace ServerAddress

/-! ## Addresses of hosts -/

/-- The parts of a text between the places of a character. -/
def splitAt (sep : Char) (text : List Char) : List (List Char) := text.splitOn sep

/-- Whether a text is one part of an IPv4 address. -/
def isOctet (text : List Char) : Bool :=
  !text.isEmpty && text.length ≤ 3 && text.all Char.isDigit
    && (text.length = 1 || text.head? != some '0')
    && (Decimal.digits? text).any (· ≤ 255)

/-- Whether a text is an IPv4 address. -/
def isIPv4 (text : List Char) : Bool :=
  let parts := splitAt '.' text
  parts.length = 4 && parts.all isOctet

/-- Whether a text is a group of an IPv6 address. -/
def isHexGroup (text : List Char) : Bool :=
  !text.isEmpty && text.length ≤ 4 && text.all fun c => (Text.hexDigit? c).isSome

/-- How many groups a run of groups has.  An IPv4 address may stand for the last
two if the run is at the end. -/
def groupCount? (atEnd : Bool) : List (List Char) → Option Nat
  | [] => some 0
  | [g] => if isHexGroup g then some 1 else if atEnd && isIPv4 g then some 2 else none
  | g :: rest => if isHexGroup g then (groupCount? atEnd rest).map (· + 1) else none

/-- The text before the first double colon and the text behind it. -/
def cutDoubleColon : List Char → Option (List Char × List Char)
  | ':' :: ':' :: rest => some ([], rest)
  | c :: rest => (cutDoubleColon rest).map fun (before, after) => (c :: before, after)
  | [] => none

/-- The groups of a run, which may be empty. -/
def groups (text : List Char) : List (List Char) := if text.isEmpty then [] else splitAt ':' text

/-- Whether a text is an IPv6 address. -/
def isIPv6 (text : List Char) : Bool :=
  match cutDoubleColon text with
  | none => groupCount? true (groups text) == some 8
  | some (before, after) =>
      match groupCount? false (groups before), groupCount? true (groups after) with
      | some m, some n => m + n ≤ 7
      | _, _ => false

/-! ## Reading -/

/-- A fault of an address. -/
def invalid {α : Type} (address detail : String) : Except String α :=
  .error ("invalid server address " ++ address ++ ": " ++ detail)

/-- The text before the first place of a character and the text behind it. -/
def cutAt (sep : Char) (text : List Char) : Option (List Char × List Char) :=
  match text.dropWhile (· != sep) with
  | [] => none
  | _ :: after => some (text.takeWhile (· != sep), after)

/-- The host and the port of an address, as text. -/
def hostAndPort (address : String) : Except String (List Char × Option (List Char)) :=
  match address.toList with
  | '[' :: literal =>
      match cutAt ']' literal with
      | none => invalid address "missing closing ']' in IP literal hostname"
      | some (name, rest) =>
          if !isIPv6 name then invalid address "invalid IPv6 address syntax"
          else
            match rest with
            | [] => .ok (name, none)
            | ':' :: port => .ok (name, some port)
            | _ =>
                invalid address
                  ("the hostname can only be followed by a port prefixed with ':', got "
                    ++ String.ofList rest)
  | text =>
      match cutAt ':' text with
      | some (name, port) => .ok (name, some port)
      | none => .ok (text, none)

/-- The port that a text names. -/
def readPort (address : String) (text : List Char) : Except String Nat :=
  match Decimal.natural? text with
  | some n =>
      if 0 < n && n < 65536 then .ok n
      else outside
  | none => outside
where
  /-- The fault of a text that names no port. -/
  outside : Except String Nat :=
    invalid address
      ("the port must be an integer between 1 and 65535, got " ++ String.ofList text)

/-- Reads an address. -/
def parse (address : String) : Except String ServerAddress :=
  if address.endsWith ".sock" then
    match Text.percentDecode? address with
    | some path => .ok (.socket path)
    | none => .error "unix domain sockets must be URL-encoded"
  else do
    let (name, port?) ← hostAndPort address
    if name.isEmpty then invalid address "the hostname cannot be empty"
    else
      match port? with
      | none => .ok (.host (Text.lower (String.ofList name)) none)
      | some port => do
          let n ← readPort address port
          .ok (.host (Text.lower (String.ofList name)) (some n))

end ServerAddress

end ShellQuery
