import ShellQuery.Connection.Uri

/-!
# Connection strings as text

What can be said about the text of a connection string without reading all of it:
the database that it seems to name, and a form of it that shows no credentials.  The
text need not be a connection string.
-/

namespace ShellQuery

namespace UriText

/-- What divides the scheme from the rest. -/
def schemeEnd : List Char := [':', '/', '/']

/-- The text behind the first end of a scheme, and before the next one if there is a
next one. -/
def authority? (uri : List Char) : Option (List Char) :=
  (ConnectionString.cutAtText schemeEnd uri).map fun (_, rest) =>
    match ConnectionString.cutAtText schemeEnd rest with
    | some (before, _) => before
    | none => rest

/-- The database that a text names: what follows the first slash, up to a question
mark. -/
def database? (uri : List Char) : Option (List Char) :=
  ((authority? uri).bind (ServerAddress.cutAt '/')).bind fun (_, path) =>
    let name := path.takeWhile (· != '?')
    if name.isEmpty then none else some name

/-- What stands for credentials. -/
def mask : List Char := ['*', '*', '*']

/-- A text with all between the first end of a scheme and the last at sign masked. -/
def masked (uri : List Char) : List Char :=
  match ConnectionString.cutAtText schemeEnd uri with
  | none => uri
  | some (scheme, rest) =>
      match ConnectionString.cutAtLast '@' rest with
      | none => uri
      | some (_, host) => scheme ++ schemeEnd ++ mask ++ '@' :: host

/-- A text without the credentials in it. -/
def sanitize (uri : String) : String := String.ofList (masked uri.toList)

example : sanitize "mongodb://u:p@h/db" = "mongodb://***@h/db" := by decide +kernel
example : sanitize "a@b://c" = "a@b://c" := by decide +kernel
example : database? "mongodb://h/db?x=/y".toList = some "db".toList := by decide +kernel

end UriText

end ShellQuery
