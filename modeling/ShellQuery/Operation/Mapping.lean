import ShellQuery.Argument.Normal
import ShellQuery.Number.Binary64
import ShellQuery.Number.Width
import ShellQuery.Operation.CursorMethod
import ShellQuery.Operation.Descriptor
import ShellQuery.Statement.BaseCall

/-!
# From calls to descriptors

A base call, its argument values and the calls chained to it make a descriptor.
Only an unknown operation fails.  A chained call that is unknown, does not apply
or has an unusable argument changes nothing and gives a warning.

A chained call is read on its own.  `readEffect` turns it into an `Effect`, which
names the option it sets, or into the reason why it is ignored.  Neither depends
on the other calls.  The options are the effects applied from left to right, so
the last call that sets an option wins.

`find` with `count`, `size` or `itcount` in its chain becomes a count, and the last
of these decides who counts.  These three are judged as calls on a find.  The
other calls are judged by the kind that results, but as calls on a find when the
documents of the find are counted.
-/

namespace ShellQuery

open ShellQuery.Text

/-- A chained call that was ignored. -/
structure Warning where
  /-- The name of the method. -/
  method : String
  /-- Why it was ignored. -/
  reason : String
  deriving DecidableEq, Repr

/-- The wording of a warning. -/
def Warning.message (w : Warning) : String := w.method ++ "() ignored: " ++ w.reason

namespace Mapping

/-! ## Arguments of chained calls -/

/-- The largest and the smallest 64-bit integer bound an integer. -/
def clampInt64 (n : Int) : Int64 := Int64.ofInt (max Width.int64Min (min Width.int64Max n))

/-- The 64-bit integer of a number without a fraction.  A number beyond the range
gives the end of the range. -/
def toInt64? : JsonNumber → Option Int64
  | .int n => some (clampInt64 n)
  | .float x => (Binary64.integer? x).map clampInt64

/-- The first value of the arguments, if they can be read. -/
def firstArgument? (args : String) : Option Json :=
  match Argument.normalizeFirst args.toList with
  | .ok value => value
  | .error _ => none

/-- The object that the arguments start with. -/
def objectArgument? (args : String) : Option Json :=
  (firstArgument? args).filter Json.isObject

/-- The integer that the arguments start with. -/
def integerArgument? (args : String) : Option Int64 :=
  match firstArgument? args with
  | some (.number n) => toInt64? n
  | _ => none

/-- The boolean that the arguments start with.  No argument means `true`. -/
def flagArgument? (args : String) : Option Bool :=
  if (trim args.toList).isEmpty then some true else (firstArgument? args).bind Json.asBool?

/-- A text without the quotes around it, which need not be of one kind. -/
def stripQuotes (text : List Char) : List Char :=
  match text with
  | q :: body =>
      if isNameQuote q && body.getLast?.any isNameQuote then body.dropLast else text
  | [] => []
where
  /-- Whether a character is one of the quotes that are dropped. -/
  isNameQuote (c : Char) : Bool := c == '"' || c == '\''

/-- The string that the arguments start with.  Arguments that cannot be read, or
that hold no value, stand for themselves. -/
def stringArgument? (args : String) : Option String :=
  match firstArgument? args with
  | some value => value.asString?
  | none =>
      let text := stripQuotes (trim args.toList)
      if text.isEmpty then none else some (String.ofList text)

/-- The index that the arguments start with, by its keys or its name. -/
def indexArgument? (args : String) : Option Json :=
  (firstArgument? args).filter fun value => value.isObject || value.asString?.isSome

/-! ## Effects of chained calls -/

/-- What an accepted call does to the options. -/
inductive Effect where
  /-- Sets the order of the documents. -/
  | sort (value : Json)
  /-- Sets the largest number of documents. -/
  | limit (value : Int64)
  /-- Sets how many documents are passed over. -/
  | skip (value : Int64)
  /-- Sets the index to use. -/
  | hint (value : Json)
  /-- Sets the note for the server's log. -/
  | comment (value : String)
  /-- Sets the time the server may take. -/
  | maxTimeMS (value : Int64)
  /-- Sets the rules for comparing strings. -/
  | collation (value : Json)
  /-- Sets how settled the data has to be. -/
  | readConcern (level : String)
  /-- Sets which servers may answer. -/
  | readPreference (mode : String)
  /-- Sets whether the server may use its disk. -/
  | allowDiskUse (value : Bool)
  /-- Sets whether the cursor stays open when it is idle. -/
  | noCursorTimeout (value : Bool)
  /-- Sets whether only the keys of the index are wanted. -/
  | returnKey (value : Bool)
  /-- Sets whether documents carry their record number. -/
  | showRecordId (value : Bool)
  /-- Sets how many documents come in one reply. -/
  | batchSize (value : Int64)
  /-- Asks for a result on several lines. -/
  | pretty
  /-- Sets the function to call for each document. -/
  | forEach (function : FunctionLiteral)
  /-- Sets the function to apply to each document. -/
  | map (function : FunctionLiteral)
  /-- Sets nothing. -/
  | nothing

/-- The options after an effect. -/
def Effect.apply (o : QueryOptions) : Effect → QueryOptions
  | sort value => { o with sort := some value }
  | limit value => { o with limit := some value }
  | skip value => { o with skip := some value }
  | hint value => { o with hint := some value }
  | comment value => { o with comment := some value }
  | maxTimeMS value => { o with maxTimeMS := some value }
  | collation value => { o with collation := some value }
  | readConcern level => { o with readConcern := some level }
  | readPreference mode => { o with readPreference := some mode }
  | allowDiskUse value => { o with allowDiskUse := some value }
  | noCursorTimeout value => { o with noCursorTimeout := some value }
  | returnKey value => { o with returnKey := some value }
  | showRecordId value => { o with showRecordId := some value }
  | batchSize value => { o with batchSize := some value }
  | pretty => { o with pretty := some true }
  | forEach function => { o with forEach := some function, processingMode := some .forEach }
  | map function => { o with map := some function, processingMode := some .map }
  | nothing => o

/-- An argument, or the reason why there is none. -/
def orReason {α : Type} (reason : String) : Option α → Except String α
  | some value => .ok value
  | none => .error reason

/-- An integer argument that satisfies a bound. -/
def boundedArgument (args : String) (bound : Int64 → Bool) (reason : String) :
    Except String Int64 := do
  let n ← orReason "expected an integer" (integerArgument? args)
  if bound n then .ok n else .error reason

/-- The effect of a method with arguments, or the reason why it has none. -/
def methodEffect (args : String) : CursorMethod → Except String Effect
  | .sort => Effect.sort <$> orReason "expected an object" (objectArgument? args)
  | .limit => Effect.limit <$> orReason "expected an integer" (integerArgument? args)
  | .skip => Effect.skip <$> boundedArgument args (0 ≤ ·) "value must be non-negative"
  | .hint =>
      Effect.hint <$> orReason "expected an index specification or name" (indexArgument? args)
  | .comment => Effect.comment <$> orReason "expected a string" (stringArgument? args)
  | .maxTimeMS => Effect.maxTimeMS <$> boundedArgument args (0 ≤ ·) "value must be non-negative"
  | .collation => Effect.collation <$> orReason "expected an object" (objectArgument? args)
  | .readConcern => Effect.readConcern <$> orReason "expected a level" (stringArgument? args)
  | .readPref => Effect.readPreference <$> orReason "expected a mode" (stringArgument? args)
  | .allowDiskUse => Effect.allowDiskUse <$> orReason "expected a boolean" (flagArgument? args)
  | .noCursorTimeout =>
      Effect.noCursorTimeout <$> orReason "expected a boolean" (flagArgument? args)
  | .returnKey => Effect.returnKey <$> orReason "expected a boolean" (flagArgument? args)
  | .showRecordId => Effect.showRecordId <$> orReason "expected a boolean" (flagArgument? args)
  | .batchSize => Effect.batchSize <$> boundedArgument args (0 < ·) "value must be positive"
  | .pretty => .ok .pretty
  | .forEach =>
      Effect.forEach <$>
        orReason "expected a function literal" (FunctionLiteral.read? args.toList)
  | .map =>
      Effect.map <$> orReason "expected a function literal" (FunctionLiteral.read? args.toList)
  | .count | .size | .itcount | .toArray => .ok .nothing

/-- The kinds by which the calls of a chain are judged. -/
structure Judging where
  /-- The kind of the base call.  It judges the counting methods. -/
  base : OperationKind
  /-- The kind that judges all other methods. -/
  other : OperationKind

/-- The kind by which a method is judged. -/
def Judging.kindFor (j : Judging) (m : CursorMethod) : OperationKind :=
  if m.isCounting then j.base else j.other

/-- The effect of a chained call, or the reason why it is ignored. -/
def readEffect (j : Judging) (call : CursorCall) : Except String Effect :=
  match CursorMethod.ofName? call.method with
  | none => .error "unsupported cursor method"
  | some m =>
      let kind := j.kindFor m
      if m.appliesTo kind then methodEffect call.args m
      else .error ("not applicable to " ++ kind.name)

/-- The options after a call, and its warning if it is ignored. -/
def applyCall (j : Judging) (o : QueryOptions) (call : CursorCall) :
    QueryOptions × Option Warning :=
  match readEffect j call with
  | .ok effect => (effect.apply o, none)
  | .error reason => (o, some ⟨call.method, reason⟩)

/-- The options after the calls of a chain, and the warnings in order. -/
def applyCalls (j : Judging) (o : QueryOptions) : List CursorCall → QueryOptions × List Warning
  | [] => (o, [])
  | call :: rest =>
      let (o, warning) := applyCall j o call
      let (o, warnings) := applyCalls j o rest
      (o, warning.toList ++ warnings)

/-! ## Descriptors -/

/-- Who counts after a call, if the call counts. -/
def countModeOf? (call : CursorCall) : Option CountMode :=
  match CursorMethod.ofName? call.method with
  | some .count => some .server
  | some .size | some .itcount => some .client
  | _ => none

/-- The kind that a chain makes of a base call, and who counts. -/
def reclassify (base : OperationKind) (calls : List CursorCall) :
    OperationKind × Option CountMode :=
  if base = .find then
    match (calls.filterMap countModeOf?).getLast? with
    | some mode => (.count, some mode)
    | none => (base, none)
  else (base, none)

/-- An argument, or a default for it. -/
def argumentOr (args : List Json) (i : Nat) (default : Json) : Json := args[i]?.getD default

/-- The data of an operation. -/
def shapeData (args : List Json) : OperationKind → Json
  | .find | .findOne | .count | .delete => argumentOr args 0 .emptyObject
  | .insert => argumentOr args 0 .null
  | .update =>
      .object
        [ ("filter", argumentOr args 0 .emptyObject),
          ("update", argumentOr args 1 (.object [("$set", .emptyObject)])) ]
  | .aggregate => argumentOr args 0 (.array [])
  | .distinct =>
      .object
        [ ("field", argumentOr args 0 (.string "")),
          ("filter", argumentOr args 1 .emptyObject) ]

/-- The projection of a find: its second argument, if that is an object. -/
def projectionOf? (args : List Json) : OperationKind → Option Json
  | .find | .findOne => args[1]?.filter Json.isObject
  | _ => none

/-- Whether an update asks for an upsert in its third argument. -/
def upsertOf? (args : List Json) : OperationKind → Option Bool
  | .update => (args[2]?.bind (Json.get? "upsert")).bind Json.asBool?
  | _ => none

/-- Whether an operation is for many documents, by its name. -/
def isMany (operation : String) : Bool := "Many".toList.isSuffixOf operation.toList

/-- The options before the chain. -/
def initialOptions (base : OperationKind) (operation : String) (args : List Json)
    (countMode : Option CountMode) : QueryOptions :=
  { many := isMany operation
    countMode := countMode
    projection := projectionOf? args base
    upsert := upsertOf? args base }

/-- The kinds by which a chain is judged. -/
def judging (base kind : OperationKind) (countMode : Option CountMode) : Judging :=
  ⟨base, if countMode = some .client then .find else kind⟩

end Mapping

/-- The descriptor of a base call with argument values and chained calls, and the
warnings for the calls that were ignored. -/
def Descriptor.ofCalls (call : BaseCall) (chain : List CursorCall) (args : List Json) :
    Except ParseError (Descriptor × List Warning) :=
  match OperationKind.ofOperation? call.operation with
  | none => .error (.unsupportedOperation call.operation)
  | some base =>
      let (kind, countMode) := Mapping.reclassify base chain
      let start := Mapping.initialOptions base call.operation args countMode
      let (options, warnings) :=
        Mapping.applyCalls (Mapping.judging base kind countMode) start chain
      .ok
        ( { collection := call.collection
            kind := kind
            data := Mapping.shapeData args base
            options := options
            calls := chain },
          warnings )

end ShellQuery
