import ShellQuery.CommandLine.Switch
import ShellQuery.Number.Decimal
import ShellQuery.Number.Width
import ShellQuery.Text.Similarity

/-!
# Scanning a command line

The arguments of a command are scanned from left to right.  A switch that takes a
value *waits* for it, and so does a script for the end of the scan: what waits is
*settled* when the next switch or script comes, or at the end.  Only then its value
is checked.

* A value may follow the name of a switch behind an equals sign, and it may follow
  its letter directly.
* Letters of switches without values may share one dash.
* The name of a subcommand ends the scan unless a value is waited for.
* Behind two dashes there are no switches and no subcommands.

A switch comes once at most.
-/

namespace ShellQuery.CommandLine

/-- Why a command line is refused.  The last two are requests and no faults. -/
inductive ArgumentError where
  /-- There is no such switch, or no place for an argument. -/
  | unknownArgument
  /-- A switch comes twice, or two of them exclude each other. -/
  | argumentConflict
  /-- A value is missing or empty. -/
  | invalidValue
  /-- A value is not what the switch takes. -/
  | valueValidation
  /-- A switch takes no value. -/
  | tooManyValues
  /-- There is no such subcommand. -/
  | invalidSubcommand
  /-- An explanation is wanted. -/
  | displayHelp
  /-- The version is wanted. -/
  | displayVersion
  deriving DecidableEq, Repr

namespace ArgumentError

/-- The name of the kind of an error. -/
def name : ArgumentError → String
  | unknownArgument => "UnknownArgument"
  | argumentConflict => "ArgumentConflict"
  | invalidValue => "InvalidValue"
  | valueValidation => "ValueValidation"
  | tooManyValues => "TooManyValues"
  | invalidSubcommand => "InvalidSubcommand"
  | displayHelp => "DisplayHelp"
  | displayVersion => "DisplayVersion"

/-- Whether it is a request. -/
def isRequest : ArgumentError → Bool
  | displayHelp | displayVersion => true
  | _ => false

end ArgumentError

/-- What has been settled: topics with their values.  A switch without a value has an
empty one. -/
abbrev Given := List (Topic × String)

namespace Given

/-- The value for a topic. -/
def value? (g : Given) (t : Topic) : Option String := g.lookup t

/-- Whether there is something about a topic. -/
def has (g : Given) (t : Topic) : Bool := (g.value? t).isSome

end Given

/-- The number of seconds that a text is. -/
def seconds? (text : String) : Option UInt64 :=
  ((Decimal.natural? text.toList).filter (· < Width.words64)).map UInt64.ofNat

/-- What is wrong with the value of a topic. -/
def checkValue (value : String) : Topic → Except ArgumentError Unit
  | .script | .config => if value.isEmpty then .error .invalidValue else .ok ()
  | .timeout => if (seconds? value).isSome then .ok () else .error .valueValidation
  | _ => .ok ()

/-- A scan of arguments so far. -/
structure Scan where
  /-- What has been settled. -/
  given : Given := []
  /-- What waits, with its value if that is there. -/
  waiting : Option (Topic × Option String) := none
  /-- Whether there was a script. -/
  hasScript : Bool := false
  /-- Whether there were two dashes. -/
  escaped : Bool := false

namespace Scan

/-- Whether the next argument is a value. -/
def wantsValue (s : Scan) : Bool :=
  match s.waiting with
  | some (_, none) => !s.escaped
  | _ => false

/-- Settles a topic with a value. -/
def put (s : Scan) (t : Topic) (value : String) : Except ArgumentError Scan :=
  if s.given.has t then .error .argumentConflict
  else (checkValue value t).map fun _ => { s with given := s.given ++ [(t, value)] }

/-- Settles what waits. -/
def settle (s : Scan) : Except ArgumentError Scan :=
  match s.waiting with
  | none => .ok s
  | some (_, none) => .error .invalidValue
  | some (t, some value) => { s with waiting := none }.put t value

/-- A switch without a value. -/
def raise (s : Scan) (t : Topic) : Except ArgumentError Scan := do
  let s ← s.settle
  match t with
  | .help => .error .displayHelp
  | .version => .error .displayVersion
  | t => s.put t ""

/-- A switch with its value. -/
def putNow (s : Scan) (t : Topic) (value : String) : Except ArgumentError Scan := do
  let s ← s.settle
  s.put t value

/-- A switch whose value comes next. -/
def await (s : Scan) (t : Topic) : Except ArgumentError Scan :=
  s.settle.map fun s => { s with waiting := some (t, none) }

/-! ## Arguments -/

/-- The argument behind two dashes: a name, perhaps with a value. -/
def readName (f : Form) (s : Scan) (body : List Char) : Except ArgumentError Scan :=
  let name := body.takeWhile (· != '=')
  match f.byName? (String.ofList name), body.dropWhile (· != '=') with
  | none, _ => .error .unknownArgument
  | some w, [] => if w.takesValue then s.await w.topic else s.raise w.topic
  | some w, _ :: value =>
      if w.takesValue then s.putNow w.topic (String.ofList value) else .error .tooManyValues

/-- The argument behind one dash: letters, perhaps with a value. -/
def readLetters (f : Form) : Scan → List Char → Except ArgumentError Scan
  | s, [] => .ok s
  | s, c :: rest =>
      match f.byLetter? c with
      | none => .error .unknownArgument
      | some w =>
          if w.takesValue then
            match rest with
            | [] => s.await w.topic
            | '=' :: value => s.putNow w.topic (String.ofList value)
            | value => s.putNow w.topic (String.ofList value)
          else do
            let s ← s.raise w.topic
            readLetters f s rest

/-- Whether a word looks like the name of a subcommand. -/
def resembles (word : String) (f : Form) : Bool :=
  f.subcommands.any fun name => Text.Fraction.lt ⟨7, 10⟩ (Text.jaro word.toList name.toList)

/-- The error of a word that there is no place for. -/
def surplus (f : Form) (s : Scan) (word : String) : ArgumentError :=
  if s.escaped && f.subcommands.contains word then .unknownArgument
  else if resembles word f then .invalidSubcommand
  else .unknownArgument

/-- A word: a value that is waited for, or a script. -/
def readWord (f : Form) (s : Scan) (word : String) : Except ArgumentError Scan :=
  match s.waiting, s.wantsValue with
  | some (t, _), true => .ok { s with waiting := some (t, some word) }
  | _, _ =>
      if f.takesScript && !s.hasScript then
        s.settle.map fun s => { s with waiting := some (.script, some word), hasScript := true }
      else .error (surplus f s word)

/-- Any argument. -/
def readArgument (f : Form) (s : Scan) (argument : String) : Except ArgumentError Scan :=
  if s.escaped then readWord f s argument
  else
    match argument.toList with
    | ['-', '-'] => .ok { s with escaped := true }
    | '-' :: '-' :: body => readName f s body
    | ['-'] => readWord f s argument
    | '-' :: letters => readLetters f s letters
    | _ => readWord f s argument

/-- Scans arguments up to the name of a subcommand.  The name and what follows it come
with the result. -/
def run (f : Form) :
    Scan → List String → Except ArgumentError (Scan × Option (String × List String))
  | s, [] => .ok (s, none)
  | s, argument :: rest =>
      if !s.escaped && !s.wantsValue && f.subcommands.contains argument then
        .ok (s, some (argument, rest))
      else do
        let s ← readArgument f s argument
        run f s rest

end Scan

end ShellQuery.CommandLine
