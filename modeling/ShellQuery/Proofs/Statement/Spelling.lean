import ShellQuery.Proofs.Text.Group
import ShellQuery.Statement.BaseCall
import ShellQuery.Statement.CursorCall
import ShellQuery.Text.Identifier

/-!
# Spelled statements

A statement as it may be written: a collection in one of three forms, an operation
and a chain of calls, with blanks between any two tokens.  Each part carries what
makes it well formed.  An argument text is one whose parentheses balance outside
string literals, and a quoted name holds no quote and no backslash.

`text` writes a part down.  The other functions say what it stands for.
-/

namespace ShellQuery.Spelling

open ShellQuery.Text

/-- Blanks between two tokens. -/
structure Gap where
  /-- The blanks. -/
  text : List Char
  /-- There is nothing else. -/
  blank : ∀ c ∈ text, isBlank c = true

/-- An identifier. -/
structure Name where
  /-- Its first character. -/
  head : Char
  /-- The other characters. -/
  tail : List Char
  head_start : isIdentStart head = true
  tail_char : ∀ c ∈ tail, isIdentChar c = true

/-- The characters of an identifier. -/
def Name.text (n : Name) : List Char := n.head :: n.tail

/-- A name in quotes. -/
structure QuotedName where
  /-- The quote. -/
  quote : Char
  /-- The characters between the quotes. -/
  chars : List Char
  quote_eq : quote = '"' ∨ quote = '\''
  chars_ne_nil : chars ≠ []
  chars_plain : ∀ c ∈ chars, isQuote c = false ∧ c ≠ '\\'

/-- A name with its quotes. -/
def QuotedName.text (n : QuotedName) : List Char := n.quote :: n.chars ++ [n.quote]

/-- The text between the parentheses of a call. -/
structure Arguments where
  /-- The text. -/
  text : List Char
  /-- With its parentheses it is a group. -/
  group : IsGroup '(' ')' ('(' :: text ++ [')'])

/-- A call: a dot, a name and arguments. -/
structure Call where
  /-- Before the dot. -/
  beforeDot : Gap
  /-- Behind the dot. -/
  beforeName : Gap
  /-- The name. -/
  name : Name
  /-- Behind the name. -/
  beforeArgs : Gap
  /-- The arguments. -/
  args : Arguments

/-- A call from its dot on. -/
def Call.fromDot (c : Call) : List Char :=
  '.' :: c.beforeName.text ++ c.name.text ++ c.beforeArgs.text ++ '(' :: c.args.text ++ [')']

/-- A call. -/
def Call.text (c : Call) : List Char := c.beforeDot.text ++ c.fromDot

/-- The call that a chain is read as. -/
def Call.value (c : Call) : CursorCall :=
  ⟨String.ofList c.name.text, String.ofList (trim c.args.text)⟩

/-- A collection behind `db`. -/
inductive Collection where
  /-- An identifier after a dot. -/
  | dotted (beforeDot beforeName : Gap) (name : Name)
  /-- A quoted name in brackets. -/
  | bracketed (before beforeName afterName : Gap) (name : QuotedName)
  /-- A quoted name as the argument of `getCollection`. -/
  | called (beforeDot beforeWord beforeArgs beforeName afterName : Gap) (name : QuotedName)

/-- The identifier before a quoted name in parentheses. -/
def getCollection : Name where
  head := 'g'
  tail := "etCollection".toList
  head_start := by decide
  tail_char := List.all_iff_forall_prop.1 (by decide)

/-- What stands behind `db` for a collection. -/
def Collection.text : Collection → List Char
  | dotted g1 g2 n => g1.text ++ '.' :: g2.text ++ n.text
  | bracketed g1 g2 g3 n => g1.text ++ '[' :: (g2.text ++ n.text ++ g3.text) ++ [']']
  | called g1 g2 g3 g4 g5 n =>
      g1.text ++ '.' :: g2.text ++ getCollection.text ++ g3.text
        ++ '(' :: (g4.text ++ n.text ++ g5.text) ++ [')']

/-- The name of a collection. -/
def Collection.name : Collection → List Char
  | dotted _ _ n => n.text
  | bracketed _ _ _ n => n.chars
  | called _ _ _ _ _ n => n.chars

/-- A statement. -/
structure Statement where
  /-- Before the statement. -/
  before : Gap
  /-- The collection. -/
  collection : Collection
  /-- The operation and its arguments. -/
  operation : Call
  /-- The calls behind the operation. -/
  chain : List Call
  /-- Behind the statement. -/
  after : Gap

namespace Statement

/-- The calls behind the operation, as they are written. -/
def chainText (s : Statement) : List Char := s.chain.flatMap Call.text

/-- A statement without the blanks around it. -/
def core (s : Statement) : List Char :=
  'd' :: 'b' :: s.collection.text ++ s.operation.text ++ s.chainText

/-- A statement. -/
def text (s : Statement) : String :=
  String.ofList (s.before.text ++ s.core ++ s.after.text)

/-- The base call that a statement is read as. -/
def baseCall (s : Statement) : BaseCall where
  collection := String.ofList s.collection.name
  operation := String.ofList s.operation.name.text
  args := String.ofList (trim s.operation.args.text)

end Statement

end ShellQuery.Spelling
