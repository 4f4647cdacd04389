import ShellQuery.Config.Text

/-!
# Files with settings

Where settings are read from.  A file that is named has to be there.  If none is
named then the default file is read, and if that is not there either then every
setting has its default.

What is in a file is an argument, a function from paths.
-/

namespace ShellQuery

/-- Why a file cannot be read. -/
inductive FileError where
  /-- There is no such file. -/
  | notFound
  /-- A part of the path is no directory. -/
  | notDirectory
  /-- The path is a directory. -/
  | isDirectory
  /-- What is in the file is no text. -/
  | notText
  /-- Another reason. -/
  | other (detail : String)
  deriving DecidableEq, Repr

namespace FileError

/-- The wording of an error. -/
def message : FileError → String
  | notFound => "No such file or directory (os error 2)"
  | notDirectory => "Not a directory (os error 20)"
  | isDirectory => "Is a directory (os error 21)"
  | notText => "stream did not contain valid UTF-8"
  | other detail => detail

/-- Whether the error says that there is nothing at the path. -/
def isMissing : FileError → Bool
  | notFound | notDirectory => true
  | _ => false

/-- The error as an error of the program. -/
def toQueryError (e : FileError) : QueryError := .file e.message

end FileError

/-- What is in files. -/
abbrev Files := String → Except FileError String

/-- Whether there is something at a path. -/
def Files.has (files : Files) (path : String) : Bool :=
  match files path with
  | .ok _ => true
  | .error e => !e.isMissing

namespace Config

/-- The file that is read if none is named. -/
def defaultPath (home : String) : String :=
  (if home.endsWith "/" then home else home ++ "/") ++ ".mongoquery/config.toml"

/-- The settings in a file. -/
def ofFile (files : Files) (path : String) : Except QueryError Config :=
  match files path with
  | .ok text => (ofText text).mapError .config
  | .error e => .error (if e.isMissing then .config (.fileNotFound path) else e.toQueryError)

/-- The settings in the file that is named, or in the default file. -/
def load (files : Files) (home : String) : Option String → Except QueryError Config
  | some path => ofFile files path
  | none => if files.has (defaultPath home) then ofFile files (defaultPath home) else .ok {}

end Config

end ShellQuery
