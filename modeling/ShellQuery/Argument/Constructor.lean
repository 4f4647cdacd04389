import ShellQuery.Json.Printer
import ShellQuery.Text.Identifier
import ShellQuery.Text.Word

/-!
# Constructor calls

Shell arguments may call a constructor where JSON has no literal: an object id or
a date.  A call is replaced by an extended JSON object that names the same value,
such as `{"$oid":"…"}`.

A call is the name of a constructor, an opening parenthesis right after it, at
most one quoted text and a closing parenthesis.  The quoted text has no escapes:
it runs to the next quote of its kind.  `new` may stand before the name, and
before `Date` it has to.  Neither `new` nor the name may be the end of a longer
word.

Calls are found from left to right in the raw text, inside string literals too.
-/

namespace ShellQuery.Argument

open ShellQuery.Text

/-! ## Reading a call -/

/-- A constructor of the shell. -/
inductive Constructor where
  /-- An object id from its hexadecimal digits. -/
  | objectId
  /-- A date, with or without `new`. -/
  | isoDate
  /-- A date, always with `new`. -/
  | date
  deriving DecidableEq, Repr

namespace Constructor

/-- The name of a constructor. -/
def name : Constructor → String
  | objectId => "ObjectId"
  | isoDate => "ISODate"
  | date => "Date"

/-- The key of the object that replaces a call. -/
def key : Constructor → String
  | objectId => "$oid"
  | isoDate | date => "$date"

/-- Whether `new` has to stand before the name. -/
def needsNew : Constructor → Bool
  | date => true
  | objectId | isoDate => false

/-- Whether a call without an argument has a meaning, and then which one.  A date
without an argument is the current time. -/
def noArgument? : Constructor → Option String
  | objectId => none
  | isoDate | date => some "now"

end Constructor

/-- Reads a quoted text without escapes. -/
def readQuoted? : List Char → Option (List Char × List Char)
  | [] => none
  | q :: rest =>
      if q = '"' || q = '\'' then
        match rest.dropWhile (· ≠ q) with
        | [] => none
        | _ :: after => some (rest.takeWhile (· ≠ q), after)
      else none

/-- Reads the parentheses of a call and the argument between them, which may be
left out. -/
def readParens? (text : List Char) : Option (Option (List Char) × List Char) := do
  let inside := skipBlank (← expectChar? '(' text)
  match readQuoted? inside with
  | some (argument, after) => (expectChar? ')' (skipBlank after)).map (some argument, ·)
  | none => (expectChar? ')' inside).map (none, ·)

/-- The text after `new` and the blanks behind it, if the text starts so. -/
def afterNew? (text : List Char) : Option (List Char) :=
  match dropWord? "new".toList text with
  | some (c :: rest) => if isBlank c then some (skipBlank rest) else none
  | _ => none

/-- The text from the name of a constructor on.  `new` in front of it is dropped. -/
def Constructor.fromName? (k : Constructor) (text : List Char) : Option (List Char) :=
  match afterNew? text with
  | some after => some after
  | none => if k.needsNew then none else some text

/-- The object that stands for a call: its one member is the text of the
argument. -/
def Constructor.objectText (k : Constructor) (argument : List Char) : List Char :=
  '\x7b' :: Json.stringText k.key.toList ++ ':' :: Json.stringText argument ++ ['\x7d']

/-- Reads a call of a constructor at the start of a text, where `before` is the
character in front of the text.  Gives the object that replaces it. -/
def Constructor.readCall? (k : Constructor) (before : Option Char) (text : List Char) :
    Option (List Char × List Char) :=
  if isWordAt before then none
  else do
    let parens ← dropWord? k.name.toList (← k.fromName? text)
    let (argument?, rest) ← readParens? parens
    let argument ← argument?.or (k.noArgument?.map String.toList)
    pure (k.objectText argument, rest)

/-! ## Replacing all calls -/

/-- Reads a call of the first constructor that fits. -/
def readCall? (ks : List Constructor) (before : Option Char) (text : List Char) :
    Option (List Char × List Char) :=
  ks.findSome? fun k => k.readCall? before text

theorem readQuoted?_length_lt {text body after : List Char}
    (h : readQuoted? text = some (body, after)) : after.length < text.length := by
  cases text with
  | nil => simp [readQuoted?] at h
  | cons q rest =>
    simp only [readQuoted?, Option.ite_none_right_eq_some] at h
    obtain ⟨_, h⟩ := h
    split at h
    · simp at h
    · rename_i c after' heq
      simp only [Option.some.injEq, Prod.mk.injEq] at h
      have hs := (List.dropWhile_sublist (fun x => decide (x ≠ q)) (l := rest)).length_le
      rw [heq] at hs
      simp only [List.length_cons] at hs ⊢
      rw [← h.2]
      omega

theorem readParens?_length_lt {text rest : List Char} {argument : Option (List Char)}
    (h : readParens? text = some (argument, rest)) : rest.length < text.length := by
  obtain ⟨inside, hi, h⟩ := Option.bind_eq_some_iff.1 h
  rw [expectChar?_eq_some.1 hi, List.length_cons]
  have h1 := skipBlank_length_le inside
  dsimp only at h
  split at h
  · rename_i a after heq
    obtain ⟨r, hr, he⟩ := Option.map_eq_some_iff.1 h
    have h2 := readQuoted?_length_lt heq
    have h3 := skipBlank_length_le after
    have h4 := congrArg List.length (expectChar?_eq_some.1 hr)
    simp only [Prod.mk.injEq] at he
    simp only [List.length_cons, he.2] at h4
    omega
  · obtain ⟨r, hr, he⟩ := Option.map_eq_some_iff.1 h
    have h4 := congrArg List.length (expectChar?_eq_some.1 hr)
    simp only [Prod.mk.injEq] at he
    simp only [List.length_cons, he.2] at h4
    omega

theorem afterNew?_length_le {text rest : List Char} (h : afterNew? text = some rest) :
    rest.length ≤ text.length := by
  unfold afterNew? at h
  split at h
  · rename_i c more heq
    simp only [Option.ite_none_right_eq_some, Option.some.injEq] at h
    have h1 := congrArg List.length (dropWord?_eq_some.1 heq)
    have h2 := skipBlank_length_le more
    simp only [List.length_append, List.length_cons] at h1
    rw [← h.2]
    omega
  · simp at h

theorem Constructor.fromName?_length_le {k : Constructor} {text rest : List Char}
    (h : k.fromName? text = some rest) : rest.length ≤ text.length := by
  unfold Constructor.fromName? at h
  split at h
  · rename_i after heq
    simp only [Option.some.injEq] at h
    exact h ▸ afterNew?_length_le heq
  · split at h
    · simp at h
    · simp only [Option.some.injEq] at h
      simp [h]

theorem Constructor.readCall?_length_lt {k : Constructor} {before : Option Char}
    {text object rest : List Char} (h : k.readCall? before text = some (object, rest)) :
    rest.length < text.length := by
  unfold Constructor.readCall? at h
  split at h
  · simp at h
  · obtain ⟨named, hn, h⟩ := Option.bind_eq_some_iff.1 h
    obtain ⟨parens, hp, h⟩ := Option.bind_eq_some_iff.1 h
    obtain ⟨⟨argument?, r⟩, hr, h⟩ := Option.bind_eq_some_iff.1 h
    obtain ⟨argument, _, h⟩ := Option.bind_eq_some_iff.1 h
    simp only [Option.pure_def, Option.some.injEq, Prod.mk.injEq] at h
    have h1 := readParens?_length_lt hr
    have h2 := congrArg List.length (dropWord?_eq_some.1 hp)
    have h3 := fromName?_length_le hn
    simp only [List.length_append] at h2
    rw [← h.2]
    omega

theorem readCall?_length_lt {ks : List Constructor} {before : Option Char}
    {text object rest : List Char} (h : readCall? ks before text = some (object, rest)) :
    rest.length < text.length := by
  obtain ⟨k, _, hk⟩ := List.exists_of_findSome?_eq_some h
  exact Constructor.readCall?_length_lt hk

/-- Replaces every call of the given constructors in a text.  `before` is the
character in front of the text.  A call ends with a parenthesis. -/
def replaceCalls (ks : List Constructor) (before : Option Char) (text : List Char) : List Char :=
  match _h : readCall? ks before text with
  | some (object, rest) => object ++ replaceCalls ks (some ')') rest
  | none =>
      match text with
      | [] => []
      | c :: rest => c :: replaceCalls ks (some c) rest
termination_by text.length
decreasing_by
  · exact readCall?_length_lt ‹_›
  · simp

/-- Replaces the object ids and then the dates of a text. -/
def replaceConstructors (text : List Char) : List Char :=
  replaceCalls [.isoDate, .date] none (replaceCalls [.objectId] none text)

example : replaceConstructors "\x7b_id: ObjectId('ab'), at: new Date( )\x7d".toList
    = "\x7b_id: \x7b\"$oid\":\"ab\"\x7d, at: \x7b\"$date\":\"now\"\x7d\x7d".toList := by
  decide +kernel

end ShellQuery.Argument
