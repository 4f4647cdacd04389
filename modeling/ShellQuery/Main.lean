import ShellQuery.Program.Run

/-!
# The program on the command line

Reads the command line, the files that it names and the standard input, and writes
the outcome.  There is no transport to a server here, so connections fail to open.
-/

namespace ShellQuery

/-- Why a file could not be read. -/
def FileError.ofIO : IO.Error → FileError
  | .noFileOrDirectory .. => .notFound
  | .inappropriateType _ code _ => if code = 21 then .isDirectory else .notDirectory
  | e => .other (toString e)

/-- The text of bytes. -/
def textOf (bytes : ByteArray) : Except FileError String :=
  match String.fromUTF8? bytes with
  | some text => .ok text
  | none => .error .notText

/-- What is in a file. -/
def readFile (path : String) : IO (Except FileError String) := do
  try
    return textOf (← IO.FS.readBinFile path)
  catch e => return .error (.ofIO e)

/-- What is in some files. -/
def readFiles (paths : List String) : IO Files := do
  let contents ← paths.mapM fun path => do return (path, ← readFile path)
  return fun path => (contents.lookup path).getD (.error .notFound)

/-- The rest of a stream. -/
partial def readAll (stream : IO.FS.Stream) (sofar : ByteArray) : IO ByteArray := do
  let bytes ← stream.read 65536
  if bytes.isEmpty then return sofar else readAll stream (sofar ++ bytes)

/-- What the program finds when it starts. -/
def findHost (arguments : List String) : IO Host := do
  let home := (← IO.getEnv "HOME").getD "."
  let a := (Arguments.parse arguments).toOption.getD {}
  let files ← readFiles (a.paths home)
  let input ← if a.readsInput then readAll (← IO.getStdin) .empty else pure .empty
  let seed ← IO.rand 0 (Nat.pow 2 90)
  return { home := home
           files := files
           input := textOf input
           freshId := fun place => .ofNat (seed + place) }

end ShellQuery

open ShellQuery in
/-- Runs the program. -/
def main (arguments : List String) : IO UInt32 := do
  let host ← findHost arguments
  let (_, outcome) := Program.run host Server.unreachable arguments ()
  IO.print outcome.output
  match outcome.ending with
  | .refused e => if !e.isRequest then IO.eprintln ("error: " ++ e.name)
  | ending => ending.errorLine?.forM IO.eprintln
  return outcome.ending.status.toUInt32
