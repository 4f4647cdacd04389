import ShellQuery.Argument.Constructor
import ShellQuery.Proofs.Json.Literal
import ShellQuery.Proofs.Json.Number
import ShellQuery.Proofs.Statement.Spelling

/-!
# Spelled values

An argument value as it may be written in the shell: a JSON value with white space
between any two tokens, in which a string or a key may stand in any of three quotes, a
key that is an identifier needs none, and a constructor call may stand for a value.

The leaves of a tree are everything but arrays and objects.  What a step of reading
does to a text, it does to one leaf or key after the other, and `Tree.bind` is how
this looks on trees.
-/

namespace ShellQuery.Spelling

open ShellQuery.Text

/-! ## Tokens -/

/-- White space of JSON. -/
structure Space where
  /-- The characters. -/
  text : List Char
  space : ∀ c ∈ text, Json.isSpace c = true

/-- A number: what JSON reads as one. -/
structure Number where
  /-- The characters. -/
  text : List Char
  /-- The number they stand for. -/
  value : JsonNumber
  reads : Json.readText text = .ok (.number value)
  trimmed : ∀ c ∈ text, Json.isSpace c = false

/-- A string in quotes. -/
structure Literal where
  /-- The quote. -/
  quote : Char
  /-- What stands between the quotes. -/
  written : List Char
  /-- The string. -/
  chars : List Char
  quote_isQuote : isQuote quote = true
  spells : Json.Spells quote written chars

theorem isQuote_doubleQuote : isQuote '"' = true := by decide

/-- A literal with its quotes. -/
def Literal.text (l : Literal) : List Char := l.quote :: l.written ++ [l.quote]

theorem Name.isIdentChar_of_mem (n : Name) : ∀ c ∈ n.text, isIdentChar c = true := by
  rw [Name.text, List.forall_mem_cons]
  exact ⟨isIdentChar_of_isIdentStart n.head_start, n.tail_char⟩

/-- The characters of identifiers need no escape. -/
theorem spells_of_isIdentChar {text : List Char} (h : ∀ c ∈ text, isIdentChar c = true) :
    Json.Spells '"' text text := by
  refine Json.spells_self fun c hc => ⟨?_, ?_, le_toNat_of_isIdentChar (h c hc)⟩
  · rintro rfl
    exact absurd (h _ hc) (by decide)
  · rintro rfl
    exact absurd (h _ hc) (by decide)

/-- A key. -/
inductive Key where
  /-- An identifier. -/
  | bare (name : Name)
  /-- A string. -/
  | quoted (l : Literal)

/-- The characters of a key. -/
def Key.text : Key → List Char
  | bare n => n.text
  | quoted l => l.text

/-- The string that a key stands for. -/
def Key.chars : Key → List Char
  | bare n => n.text
  | quoted l => l.chars

/-- The argument of a constructor: a text without its own quote. -/
structure QuotedArgument where
  /-- The quote. -/
  quote : Char
  /-- The characters between the quotes. -/
  chars : List Char
  /-- Behind the closing quote. -/
  after : Space
  quote_eq : quote = '"' ∨ quote = '\''
  quote_notMem : quote ∉ chars

/-- A constructor call. -/
structure ConstructorCall where
  /-- The constructor. -/
  kind : Argument.Constructor
  /-- The white space behind `new`, if it is there. -/
  afterNew : Option Space
  /-- Behind the opening parenthesis. -/
  inner : Space
  /-- The argument, if there is one. -/
  argument : Option QuotedArgument
  afterNew_ne_nil : ∀ s ∈ afterNew, s.text ≠ []
  afterNew_isSome : kind.needsNew = true → afterNew.isSome = true
  argument_isSome : kind.noArgument?.isNone = true → argument.isSome = true

namespace ConstructorCall

/-- What stands in front of the name. -/
def newText (c : ConstructorCall) : List Char :=
  match c.afterNew with
  | some s => "new".toList ++ s.text
  | none => []

/-- What stands between the parentheses. -/
def argumentText (c : ConstructorCall) : List Char :=
  match c.argument with
  | some a => a.quote :: a.chars ++ a.quote :: a.after.text
  | none => []

/-- A call with its parentheses. -/
def text (c : ConstructorCall) : List Char :=
  c.newText ++ c.kind.name.toList ++ '(' :: c.inner.text ++ c.argumentText ++ [')']

/-- The text that a call stands for. -/
def chars (c : ConstructorCall) : List Char :=
  match c.argument with
  | some a => a.chars
  | none => (c.kind.noArgument?.getD "").toList

/-- The value that a call stands for, as an extended JSON object. -/
def value (c : ConstructorCall) : Json :=
  .object [(c.kind.key, .string (String.ofList c.chars))]

end ConstructorCall

/-! ## Leaves -/

/-- A value that is neither an array nor an object. -/
inductive Leaf where
  /-- The word `null`. -/
  | null
  /-- The word of a boolean. -/
  | bool (b : Bool)
  /-- A number. -/
  | number (n : Number)
  /-- A string. -/
  | string (l : Literal)
  /-- A constructor call. -/
  | call (c : ConstructorCall)

namespace Leaf

/-- The characters of a leaf. -/
def text : Leaf → List Char
  | null => "null".toList
  | bool true => "true".toList
  | bool false => "false".toList
  | number n => n.text
  | string l => l.text
  | call c => c.text

/-- The value of a leaf. -/
def value : Leaf → Json
  | null => .null
  | bool b => .bool b
  | number n => .number n.value
  | string l => .string (String.ofList l.chars)
  | call c => c.value

/-- The string that a leaf holds, if it does. -/
def chars? : Leaf → Option (List Char)
  | string l => some l.chars
  | call c => some c.chars
  | null | bool _ | number _ => none

/-- How many strings a leaf holds. -/
def stringCount (a : Leaf) : Nat := if a.chars?.isSome then 1 else 0

/-- How deep the value of a leaf nests. -/
def depth : Leaf → Nat
  | call _ => 1
  | null | bool _ | number _ | string _ => 0

end Leaf

/-! ## Trees -/

mutual

/-- A value. -/
inductive Tree where
  /-- A leaf. -/
  | leaf (a : Leaf)
  /-- An array: white space behind the bracket, and items. -/
  | array (inner : Space) (items : Items)
  /-- An object: white space behind the brace, and members. -/
  | object (inner : Space) (members : Members)

/-- The items of an array. -/
inductive Items where
  /-- No item. -/
  | nil
  /-- A value between white space, and the items behind it. -/
  | cons (before : Space) (value : Tree) (after : Space) (rest : Items)

/-- The members of an object. -/
inductive Members where
  /-- No member. -/
  | nil
  /-- A key and a value, each between white space, and the members behind them. -/
  | cons (beforeKey : Space) (key : Key) (afterKey before : Space) (value : Tree)
      (after : Space) (rest : Members)

end

/-- The comma in front of the items, if there are any. -/
def Items.comma : Items → List Char
  | nil => []
  | cons .. => [',']

/-- The comma in front of the members, if there are any. -/
def Members.comma : Members → List Char
  | nil => []
  | cons .. => [',']

mutual

/-- The characters of a value. -/
def Tree.text : Tree → List Char
  | .leaf a => a.text
  | .array inner items => '[' :: (inner.text ++ (items.text ++ [']']))
  | .object inner members => '\x7b' :: (inner.text ++ (members.text ++ ['\x7d']))

/-- The characters of the items between the brackets. -/
def Items.text : Items → List Char
  | .nil => []
  | .cons before value after rest =>
      before.text ++ (value.text ++ (after.text ++ (rest.comma ++ rest.text)))

/-- The characters of the members between the braces. -/
def Members.text : Members → List Char
  | .nil => []
  | .cons beforeKey key afterKey before value after rest =>
      beforeKey.text ++ (key.text ++ (afterKey.text ++ ':' ::
        (before.text ++ (value.text ++ (after.text ++ (rest.comma ++ rest.text))))))

end

/-- The members that an object has: a repeated key takes the last value. -/
def merge (members : JsonMembers) : JsonMembers :=
  members.foldl (fun all m => Json.put m.1 m.2 all) []

mutual

/-- The JSON value of a tree. -/
def Tree.value : Tree → Json
  | .leaf a => a.value
  | .array _ items => .array items.values
  | .object _ members => .object (merge members.values)

/-- The JSON values of items. -/
def Items.values : Items → List Json
  | .nil => []
  | .cons _ value _ rest => value.value :: rest.values

/-- The keys and the JSON values of members. -/
def Members.values : Members → JsonMembers
  | .nil => []
  | .cons _ key _ _ value _ rest => (String.ofList key.chars, value.value) :: rest.values

end

mutual

/-- How deep the value of a tree nests. -/
def Tree.depth : Tree → Nat
  | .leaf a => a.depth
  | .array _ items => items.depth + 1
  | .object _ members => members.depth + 1

/-- How deep the values of items nest. -/
def Items.depth : Items → Nat
  | .nil => 0
  | .cons _ value _ rest => max value.depth rest.depth

/-- How deep the values of members nest. -/
def Members.depth : Members → Nat
  | .nil => 0
  | .cons _ _ _ _ value _ rest => max value.depth rest.depth

end

mutual

/-- How many leaves of a tree hold strings. -/
def Tree.stringCount : Tree → Nat
  | .leaf a => a.stringCount
  | .array _ items => items.stringCount
  | .object _ members => members.stringCount

/-- How many leaves of items hold strings. -/
def Items.stringCount : Items → Nat
  | .nil => 0
  | .cons _ value _ rest => value.stringCount + rest.stringCount

/-- How many leaves of members hold strings. -/
def Members.stringCount : Members → Nat
  | .nil => 0
  | .cons _ _ _ _ value _ rest => value.stringCount + rest.stringCount

end

mutual

/-- All leaves and all keys of a tree have a property. -/
def Tree.All (p : Leaf → Prop) (q : Key → Prop) : Tree → Prop
  | .leaf a => p a
  | .array _ items => items.All p q
  | .object _ members => members.All p q

/-- All leaves and all keys of items have a property. -/
def Items.All (p : Leaf → Prop) (q : Key → Prop) : Items → Prop
  | .nil => True
  | .cons _ value _ rest => value.All p q ∧ rest.All p q

/-- All leaves and all keys of members have a property. -/
def Members.All (p : Leaf → Prop) (q : Key → Prop) : Members → Prop
  | .nil => True
  | .cons _ key _ _ value _ rest => q key ∧ value.All p q ∧ rest.All p q

end

mutual

/-- A tree with a tree for each leaf and a key for each key. -/
def Tree.bind (f : Leaf → Tree) (g : Key → Key) : Tree → Tree
  | .leaf a => f a
  | .array inner items => .array inner (items.bind f g)
  | .object inner members => .object inner (members.bind f g)

/-- Items with a tree for each leaf and a key for each key. -/
def Items.bind (f : Leaf → Tree) (g : Key → Key) : Items → Items
  | .nil => .nil
  | .cons before value after rest => .cons before (value.bind f g) after (rest.bind f g)

/-- Members with a tree for each leaf and a key for each key. -/
def Members.bind (f : Leaf → Tree) (g : Key → Key) : Members → Members
  | .nil => .nil
  | .cons beforeKey key afterKey before value after rest =>
      .cons beforeKey (g key) afterKey before (value.bind f g) after (rest.bind f g)

end

/-! ## Trees with other leaves -/

section

variable {p p' : Leaf → Prop} {q q' : Key → Prop} {f : Leaf → Tree} {g : Key → Key}

@[simp] theorem Items.comma_bind (items : Items) : (items.bind f g).comma = items.comma := by
  cases items <;> rfl

@[simp] theorem Members.comma_bind (members : Members) :
    (members.bind f g).comma = members.comma := by
  cases members <;> rfl

mutual

/-- Leaves and keys that keep their values keep the value of a tree. -/
theorem Tree.value_bind (hf : ∀ a, p a → (f a).value = a.value)
    (hg : ∀ k, q k → (g k).chars = k.chars) :
    ∀ t : Tree, t.All p q → (t.bind f g).value = t.value
  | .leaf a, h => hf a h
  | .array _ items, h => congrArg Json.array (items.values_bind hf hg h)
  | .object _ members, h =>
      congrArg (fun ms => Json.object (merge ms)) (members.values_bind hf hg h)

theorem Items.values_bind (hf : ∀ a, p a → (f a).value = a.value)
    (hg : ∀ k, q k → (g k).chars = k.chars) :
    ∀ items : Items, items.All p q → (items.bind f g).values = items.values
  | .nil, _ => rfl
  | .cons _ value _ rest, h => by
      rw [Items.bind, Items.values, Items.values, value.value_bind hf hg h.1,
        rest.values_bind hf hg h.2]

theorem Members.values_bind (hf : ∀ a, p a → (f a).value = a.value)
    (hg : ∀ k, q k → (g k).chars = k.chars) :
    ∀ members : Members, members.All p q → (members.bind f g).values = members.values
  | .nil, _ => rfl
  | .cons _ key _ _ value _ rest, h => by
      rw [Members.bind, Members.values, Members.values, hg key h.1, value.value_bind hf hg h.2.1,
        rest.values_bind hf hg h.2.2]

end

mutual

/-- Leaves that keep their depth keep the depth of a tree. -/
theorem Tree.depth_bind (hf : ∀ a, p a → (f a).depth = a.depth) :
    ∀ t : Tree, t.All p q → (t.bind f g).depth = t.depth
  | .leaf a, h => hf a h
  | .array _ items, h => congrArg (· + 1) (items.depth_bind hf h)
  | .object _ members, h => congrArg (· + 1) (members.depth_bind hf h)

theorem Items.depth_bind (hf : ∀ a, p a → (f a).depth = a.depth) :
    ∀ items : Items, items.All p q → (items.bind f g).depth = items.depth
  | .nil, _ => rfl
  | .cons _ value _ rest, h => by
      rw [Items.bind, Items.depth, Items.depth, value.depth_bind hf h.1, rest.depth_bind hf h.2]

theorem Members.depth_bind (hf : ∀ a, p a → (f a).depth = a.depth) :
    ∀ members : Members, members.All p q → (members.bind f g).depth = members.depth
  | .nil, _ => rfl
  | .cons _ _ _ _ value _ rest, h => by
      rw [Members.bind, Members.depth, Members.depth, value.depth_bind hf h.2.1,
        rest.depth_bind hf h.2.2]

end

mutual

/-- Leaves that keep their number of strings keep that of a tree. -/
theorem Tree.stringCount_bind (hf : ∀ a, p a → (f a).stringCount = a.stringCount) :
    ∀ t : Tree, t.All p q → (t.bind f g).stringCount = t.stringCount
  | .leaf a, h => hf a h
  | .array _ items, h => items.stringCount_bind hf h
  | .object _ members, h => members.stringCount_bind hf h

theorem Items.stringCount_bind (hf : ∀ a, p a → (f a).stringCount = a.stringCount) :
    ∀ items : Items, items.All p q → (items.bind f g).stringCount = items.stringCount
  | .nil, _ => rfl
  | .cons _ value _ rest, h => by
      rw [Items.bind, Items.stringCount, Items.stringCount, value.stringCount_bind hf h.1,
        rest.stringCount_bind hf h.2]

theorem Members.stringCount_bind (hf : ∀ a, p a → (f a).stringCount = a.stringCount) :
    ∀ members : Members, members.All p q → (members.bind f g).stringCount = members.stringCount
  | .nil, _ => rfl
  | .cons _ _ _ _ value _ rest, h => by
      rw [Members.bind, Members.stringCount, Members.stringCount, value.stringCount_bind hf h.2.1,
        rest.stringCount_bind hf h.2.2]

end

mutual

/-- Leaves and keys that stay keep a tree as it is. -/
theorem Tree.bind_eq_self (hf : ∀ a, p a → f a = .leaf a) (hg : ∀ k, q k → g k = k) :
    ∀ t : Tree, t.All p q → t.bind f g = t
  | .leaf a, h => hf a h
  | .array inner items, h => congrArg (Tree.array inner) (items.bind_eq_self hf hg h)
  | .object inner members, h => congrArg (Tree.object inner) (members.bind_eq_self hf hg h)

theorem Items.bind_eq_self (hf : ∀ a, p a → f a = .leaf a) (hg : ∀ k, q k → g k = k) :
    ∀ items : Items, items.All p q → items.bind f g = items
  | .nil, _ => rfl
  | .cons _ value _ rest, h => by
      rw [Items.bind, value.bind_eq_self hf hg h.1, rest.bind_eq_self hf hg h.2]

theorem Members.bind_eq_self (hf : ∀ a, p a → f a = .leaf a) (hg : ∀ k, q k → g k = k) :
    ∀ members : Members, members.All p q → members.bind f g = members
  | .nil, _ => rfl
  | .cons _ key _ _ value _ rest, h => by
      rw [Members.bind, hg key h.1, value.bind_eq_self hf hg h.2.1,
        rest.bind_eq_self hf hg h.2.2]

end

mutual

/-- A property of the new leaves and keys holds in the whole new tree. -/
theorem Tree.all_bind (hf : ∀ a, p a → (f a).All p' q') (hg : ∀ k, q k → q' (g k)) :
    ∀ t : Tree, t.All p q → (t.bind f g).All p' q'
  | .leaf a, h => hf a h
  | .array _ items, h => items.all_bind hf hg h
  | .object _ members, h => members.all_bind hf hg h

theorem Items.all_bind (hf : ∀ a, p a → (f a).All p' q') (hg : ∀ k, q k → q' (g k)) :
    ∀ items : Items, items.All p q → (items.bind f g).All p' q'
  | .nil, _ => trivial
  | .cons _ value _ rest, h => ⟨value.all_bind hf hg h.1, rest.all_bind hf hg h.2⟩

theorem Members.all_bind (hf : ∀ a, p a → (f a).All p' q') (hg : ∀ k, q k → q' (g k)) :
    ∀ members : Members, members.All p q → (members.bind f g).All p' q'
  | .nil, _ => trivial
  | .cons _ key _ _ value _ rest, h =>
      ⟨hg key h.1, value.all_bind hf hg h.2.1, rest.all_bind hf hg h.2.2⟩

end

/-- A weaker property holds in all items too. -/
theorem Items.All.imp {items : Items} (h : items.All p q) (hp : ∀ a, p a → p' a)
    (hq : ∀ k, q k → q' k) : items.All p' q' := by
  have hb := items.all_bind (f := .leaf) (g := id) hp hq h
  have hs : items.bind .leaf id = items :=
    items.bind_eq_self (fun _ _ => rfl) (fun _ _ => rfl) h
  rwa [hs] at hb

end

/-! ## What may follow a value -/

/-- A text that starts, behind white space, with what may follow a value. -/
def EndsValue (rest : List Char) : Prop :=
  ∀ c ∈ (Json.skipSpace rest).head?, c = ',' ∨ c = ']' ∨ c = '\x7d'

/-- A text that starts, behind white space, with a colon. -/
def EndsKey (rest : List Char) : Prop := (Json.skipSpace rest).head? = some ':'

theorem skipSpace_append {space : List Char} (h : ∀ c ∈ space, Json.isSpace c = true)
    (text : List Char) : Json.skipSpace (space ++ text) = Json.skipSpace text := by
  rw [Json.skipSpace, List.dropWhile_append_of_pos h]
  rfl

theorem skipSpace_cons {c : Char} (h : Json.isSpace c = false) (rest : List Char) :
    Json.skipSpace (c :: rest) = c :: rest := by
  simp [Json.skipSpace, h]

/-- White space is skipped up to a character that is none. -/
theorem skipSpace_space_cons (space : Space) {c : Char} (h : Json.isSpace c = false)
    (rest : List Char) : Json.skipSpace (space.text ++ c :: rest) = c :: rest := by
  rw [skipSpace_append space.space, skipSpace_cons h]

/-- A text is the white space at its start before the rest. -/
theorem exists_eq_append_skipSpace (text : List Char) :
    ∃ space : Space, text = space.text ++ Json.skipSpace text :=
  ⟨⟨text.takeWhile Json.isSpace, fun c hc => List.all_eq_true.1 List.all_takeWhile c hc⟩,
    (List.takeWhile_append_dropWhile).symm⟩

theorem isBlank_of_isSpace {c : Char} (h : Json.isSpace c = true) : isBlank c = true :=
  Json.of_isSpace h (by decide)

theorem endsValue_nil : EndsValue [] := by
  intro c hc
  simp [Json.skipSpace] at hc

theorem endsValue_cons {c : Char} (rest : List Char) (h : c = ',' ∨ c = ']' ∨ c = '\x7d') :
    EndsValue (c :: rest) := by
  have hs : Json.isSpace c = false := by rcases h with rfl | rfl | rfl <;> decide
  intro d hd
  rw [skipSpace_cons hs] at hd
  obtain rfl : c = d := by simpa using hd
  exact h

theorem endsValue_space (space : Space) {rest : List Char} (h : EndsValue rest) :
    EndsValue (space.text ++ rest) := by
  rw [EndsValue, skipSpace_append space.space]
  exact h

theorem endsKey_space (space : Space) (rest : List Char) :
    EndsKey (space.text ++ ':' :: rest) := by
  rw [EndsKey, skipSpace_append space.space, skipSpace_cons (by decide)]
  rfl

/-- The items behind a value end it. -/
theorem endsValue_items (items : Items) {rest : List Char} (h : EndsValue rest) :
    EndsValue (items.comma ++ (items.text ++ rest)) := by
  cases items with
  | nil => exact h
  | cons => exact endsValue_cons _ (.inl rfl)

/-- The members behind a value end it. -/
theorem endsValue_members (members : Members) {rest : List Char} (h : EndsValue rest) :
    EndsValue (members.comma ++ (members.text ++ rest)) := by
  cases members with
  | nil => exact h
  | cons => exact endsValue_cons _ (.inl rfl)

end ShellQuery.Spelling
