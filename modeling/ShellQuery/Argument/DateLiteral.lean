import ShellQuery.Json.Value
import ShellQuery.Number.Layout
import ShellQuery.Number.Width
import ShellQuery.Text.Identifier
import ShellQuery.Text.Quote
import ShellQuery.Text.Word

/-!
# Date literals

A string literal whose whole text looks like a date is taken out of the argument
text before it is read as JSON, and put back into the values afterwards.  A
numbered placeholder stands in for it meanwhile.  Keys stay where they are.

There are four shapes of dates: two with slashes, one with a blank between date
and time, and one with a `T` there.  A date of a shape is looked for between two
neighbouring quotes, single or double, from left to right, and a quote that closes
one find opens no other of that shape.  A literal is taken out when a find is
exactly the literal with its quotes.

Placeholders are numbered from the end of the text.  `restore` puts the dates
back.
-/

namespace ShellQuery.Argument

open ShellQuery.Text

/-! ## The shapes of dates -/

/-- A piece of a date text. -/
inductive DatePiece where
  /-- All decimal digits that stand here.  Their number is at least `low` and at
  most `high`. -/
  | digits (low high : Nat)
  /-- Digits without an upper limit, at least one. -/
  | moreDigits
  /-- One of some characters. -/
  | oneOf (cs : List Char)

/-- The text after a piece at its start. -/
def DatePiece.after? (text : List Char) : DatePiece → Option (List Char)
  | digits low high =>
      let count := (text.takeWhile isDecimal).length
      if low ≤ count && count ≤ high then some (text.dropWhile isDecimal) else none
  | moreDigits =>
      if (text.takeWhile isDecimal).isEmpty then none else some (text.dropWhile isDecimal)
  | oneOf cs =>
      match text with
      | [] => none
      | c :: rest => if cs.contains c then some rest else none

/-- A shape of dates: the pieces of each form it may take. -/
abbrev DateShape := List (List DatePiece)

/-- Whether pieces make up a whole text. -/
def fitsPieces (pieces : List DatePiece) (text : List Char) : Bool :=
  pieces.foldlM (fun rest piece => piece.after? rest) text == some []

/-- Whether a text has one of the forms of a shape. -/
def DateShape.fits (shape : DateShape) (text : List Char) : Bool :=
  shape.any fun pieces => fitsPieces pieces text

/-- Forms that start with some pieces and go on in one of several ways. -/
def DateShape.continued (start : List DatePiece) (ends : List (List DatePiece)) : DateShape :=
  ends.map (start ++ ·)

namespace DateShape

/-- Seconds after a colon. -/
def seconds : List DatePiece := [.oneOf [':'], .digits 2 2]

/-- Hours and minutes. -/
def minutes (hourDigits : Nat) : List DatePiece :=
  [.digits hourDigits 2, .oneOf [':'], .digits 2 2]

/-- A fraction of a second. -/
def fraction : List DatePiece := [.oneOf ['.'], .moreDigits]

/-- A time after a slash date, which may be left out. -/
def slashTimes : List (List DatePiece) :=
  let time := [.oneOf [' ', 'T']] ++ minutes 1
  [[], time, time ++ seconds]

/-- A date with slashes and the year first. -/
def slashYearFirst : DateShape :=
  continued [.digits 4 4, .oneOf ['/'], .digits 1 2, .oneOf ['/'], .digits 1 2] slashTimes

/-- A date with slashes and the year last. -/
def slashYearLast : DateShape :=
  continued [.digits 1 2, .oneOf ['/'], .digits 1 2, .oneOf ['/'], .digits 4 4] slashTimes

/-- A date with dashes. -/
def dashDate : List DatePiece :=
  [.digits 4 4, .oneOf ['-'], .digits 2 2, .oneOf ['-'], .digits 2 2]

/-- How a time with minutes may go on. -/
def secondEnds : List (List DatePiece) := [[], seconds, seconds ++ fraction]

/-- A date with dashes, a blank and a time. -/
def dashBlank : DateShape := continued (dashDate ++ [.oneOf [' ']] ++ minutes 1) secondEnds

/-- The zone after a time, which may be left out. -/
def zoneEnds : List (List DatePiece) :=
  [ [], [.oneOf ['Z']], [.oneOf ['+', '-'], .digits 2 2, .oneOf [':'], .digits 2 2],
    [.oneOf ['+', '-'], .digits 4 4] ]

/-- A date with dashes, a `T` and a time. -/
def dashT : DateShape :=
  secondEnds.flatMap fun ending =>
    continued (dashDate ++ [.oneOf ['T']] ++ minutes 2 ++ ending) zoneEnds

/-- Every shape. -/
def all : List DateShape := [slashYearFirst, slashYearLast, dashBlank, dashT]

end DateShape

/-! ## Finding date literals -/

/-- Part of a text: the number of characters before it and up to its end. -/
structure Span where
  /-- The characters before the part. -/
  start : Nat
  /-- The characters before what follows the part. -/
  stop : Nat
  deriving DecidableEq, Repr

/-- Whether a character may stand at the ends of a date that is looked for. -/
def isDateQuote (c : Char) : Bool := c == '"' || c == '\''

/-- The dates of one shape between neighbouring quotes, from left to right.
`offset` counts the characters before the text. -/
def DateShape.finds (shape : DateShape) (offset : Nat) : List Char → List Span
  | [] => []
  | c :: rest =>
      if isDateQuote c then
        let body := rest.takeWhile fun d => !isDateQuote d
        match _h : rest.dropWhile fun d => !isDateQuote d with
        | [] => []
        | _ :: after =>
            if shape.fits body then
              let stop := offset + body.length + 2
              ⟨offset, stop⟩ :: finds shape stop after
            else finds shape (offset + 1) rest
      else finds shape (offset + 1) rest
termination_by text => text.length
decreasing_by
  · have := (List.dropWhile_sublist (fun d => !isDateQuote d) (l := rest)).length_le
    simp_all only [List.length_cons]
    omega
  · simp
  · simp

/-- The literals in double quotes that no colon follows, from left to right. -/
def valueLiterals (offset : Nat) : List Char → List Span
  | [] => []
  | c :: rest =>
      if c = '"' then
        let body := (splitLiteral '"' rest).1
        let after := (splitLiteral '"' rest).2
        let stop := offset + 1 + body.length
        let others := valueLiterals stop after
        if (skipBlank after).head? == some ':' then others else ⟨offset, stop⟩ :: others
      else valueLiterals (offset + 1) rest
termination_by text => text.length
decreasing_by
  · have := splitLiteral_length_le '"' rest
    simp only [List.length_cons]
    omega
  · simp

/-- The value literals of a text that are dates, from left to right. -/
def dateLiterals (text : List Char) : List Span :=
  let found := DateShape.all.flatMap fun shape => shape.finds 0 text
  (valueLiterals 0 text).filter fun span => found.contains span

/-! ## Taking dates out and putting them back -/

/-- The text of the placeholder with a number. -/
def placeholder (n : Nat) : List Char :=
  "__DATE_PLACEHOLDER_".toList ++ natText n ++ "__".toList

/-- Replaces the given literals of a text by placeholders, and gives the texts
between their quotes by number.  `offset` counts the characters before the
text. -/
def replaceLiterals (offset : Nat) : List Span → List Char → List Char × List (List Char)
  | [], text => (text, [])
  | span :: more, text =>
      let literal := (text.drop (span.start - offset)).take (span.stop - span.start)
      let (rest, dates) := replaceLiterals span.stop more (text.drop (span.stop - offset))
      ( text.take (span.start - offset) ++ '"' :: placeholder dates.length ++ '"' :: rest,
        dates ++ [literal.tail.dropLast] )

/-- A text with placeholders for its date literals, and the dates by number. -/
def protectDates (text : List Char) : List Char × List (List Char) :=
  replaceLiterals 0 (dateLiterals text) text

/-- The number of a placeholder.  A plus sign before the digits is allowed, and
the number has to fit 64 bits. -/
def placeholderNumber? (s : List Char) : Option Nat := do
  let start ← dropWord? "__DATE_PLACEHOLDER_".toList s
  let digits := (← dropWord? "__".toList start.reverse).reverse
  let digits :=
    match digits with
    | '+' :: more => more
    | _ => digits
  if digits.isEmpty || !digits.all Char.isDigit then none
  else
    let n := digits.foldl (fun n c => n * 10 + (c.toNat - '0'.toNat)) 0
    if n < Width.words64 then some n else none

/-- The date that a placeholder stands for, and any other string itself. -/
def restoreString (dates : List (List Char)) (s : String) : String :=
  match (placeholderNumber? s.toList).bind (dates[·]?) with
  | some date => String.ofList date
  | none => s

mutual

/-- A value with its dates put back.  Keys are left alone. -/
def restore (dates : List (List Char)) : Json → Json
  | .string s => .string (restoreString dates s)
  | .array items => .array (restoreItems dates items)
  | .object members => .object (restoreMembers dates members)
  | .null => .null
  | .bool b => .bool b
  | .number n => .number n

/-- Items with their dates put back. -/
def restoreItems (dates : List (List Char)) : List Json → List Json
  | [] => []
  | x :: rest => restore dates x :: restoreItems dates rest

/-- Members with the dates of their values put back. -/
def restoreMembers (dates : List (List Char)) : List (String × Json) → List (String × Json)
  | [] => []
  | (k, v) :: rest => (k, restore dates v) :: restoreMembers dates rest

end

example : protectDates "[\"2025/01/01\", \"2025-02-02 10:00\"]".toList
    = ("[\"__DATE_PLACEHOLDER_1__\", \"__DATE_PLACEHOLDER_0__\"]".toList,
      ["2025-02-02 10:00".toList, "2025/01/01".toList]) := by
  decide +kernel

end ShellQuery.Argument
