import ShellQuery.Calendar.Instant
import ShellQuery.Number.Decimal
import ShellQuery.Number.Width
import ShellQuery.Text.Blank
import ShellQuery.Text.Identifier

/-!
# Reading dates

A date text has one of several forms.  `readZoned?` reads a date and a time with a
zone, in which every number has its fixed count of digits.  The other forms are
`Layout`s, read in UTC.  In a layout a number may have blanks in front and fewer
digits than usual, a blank stands for any number of blanks, and only a year may
have a sign, which allows it any number of digits.

`readDate?` tries the zoned form, the layouts with a time, those without, and at
last milliseconds from the start of 1970.
-/

namespace ShellQuery

open ShellQuery.Text
open ShellQuery.Decimal (digitsValue)

namespace DateText

/-! ## Numbers -/

/-- Reads at least one and at most `most` digits. -/
def readDigits? (most : Nat) (text : List Char) : Option (Nat × List Char) :=
  let digits := (text.take most).takeWhile Char.isDigit
  if digits.isEmpty then none else some (digitsValue digits, text.drop digits.length)

/-- Reads exactly `count` digits. -/
def readExact? (count : Nat) (text : List Char) : Option (Nat × List Char) :=
  let digits := text.take count
  if digits.length = count && digits.all Char.isDigit then
    some (digitsValue digits, text.drop count)
  else none

/-- Reads all digits that follow. -/
def readAllDigits? (text : List Char) : Option (Nat × List Char) :=
  let digits := text.takeWhile Char.isDigit
  if digits.isEmpty then none else some (digitsValue digits, text.dropWhile Char.isDigit)

/-- Reads a fraction of a second after a point, as nanoseconds.  Digits beyond the
ninth are passed over. -/
def readFraction? (text : List Char) : Option (Nat × List Char) :=
  match text with
  | '.' :: rest =>
      let digits := rest.takeWhile Char.isDigit
      if digits.isEmpty then none
      else
        let kept := digits.take 9
        some (digitsValue kept * Nat.pow 10 (9 - kept.length), rest.dropWhile Char.isDigit)
  | _ => some (0, text)

/-! ## Dates with a zone -/

/-- Whether a time of day exists.  Any minute may have a leap second. -/
def validTime (t : TimeOfDay) : Bool := t.hour < 24 && t.minute < 60 && t.second ≤ 60

/-- Reads a zone as seconds east of UTC, up to a minute short of a day. -/
def readZone? (text : List Char) : Option (Int × List Char) :=
  match text with
  | [] => none
  | c :: rest =>
      if c = 'Z' || c = 'z' then some (0, rest)
      else if c = '+' || c = '-' || c = '\u2212' then do
        let (hours, rest) ← readExact? 2 rest
        let (minutes, rest) ← readExact? 2 (← expectChar? ':' rest)
        if hours < 24 && minutes < 60 then
          let seconds : Int := hours * 3600 + minutes * 60
          pure (if c = '+' then seconds else -seconds, rest)
        else none
      else none

/-- Reads a date and a time with a zone. -/
def readZoned? (text : List Char) : Option Instant := do
  let (year, text) ← readExact? 4 text
  let (month, text) ← readExact? 2 (← expectChar? '-' text)
  let (day, text) ← readExact? 2 (← expectChar? '-' text)
  let text ← afterSeparator? text
  let (hour, text) ← readExact? 2 text
  let (minute, text) ← readExact? 2 (← expectChar? ':' text)
  let (second, text) ← readExact? 2 (← expectChar? ':' text)
  let (nanos, text) ← readFraction? text
  let (zone, text) ← readZone? text
  let date : Date := ⟨year, month, day⟩
  let time : TimeOfDay := ⟨hour, minute, second, nanos⟩
  if text.isEmpty && date.valid && validTime time then
    let i := Instant.ofDateTime date time
    pure { i with seconds := i.seconds - zone }
  else none
where
  /-- The text after what stands between date and time. -/
  afterSeparator? : List Char → Option (List Char)
    | c :: rest => if c = 'T' || c = 't' || c = ' ' then some rest else none
    | [] => none

/-! ## Layouts -/

/-- A part of a layout. -/
inductive Item where
  /-- The year. -/
  | year
  /-- The month. -/
  | month
  /-- The day of the month. -/
  | day
  /-- The hour. -/
  | hour
  /-- The minute. -/
  | minute
  /-- The second. -/
  | second
  /-- A fraction of a second, which may be left out. -/
  | fraction
  /-- Any number of blanks. -/
  | blank
  /-- One given character. -/
  | char (c : Char)
  deriving DecidableEq, Repr

/-- The form of a date text. -/
abbrev Layout := List Item

/-- What a date text says.  A part that it does not name is zero, or one for the
parts of a date. -/
structure Reading where
  /-- The date. -/
  date : Date := ⟨0, 1, 1⟩
  /-- The time of day. -/
  time : TimeOfDay := ⟨0, 0, 0, 0⟩

/-- Reads a year. -/
def readYear? (text : List Char) : Option (Int × List Char) :=
  match text with
  | '-' :: rest => (readAllDigits? rest).map fun (n, rest) => (-(n : Int), rest)
  | '+' :: rest => (readAllDigits? rest).map fun (n, rest) => ((n : Int), rest)
  | _ => (readDigits? 4 text).map fun (n, rest) => ((n : Int), rest)

/-- Reads a number of at most two digits after blanks. -/
def readTwo? (text : List Char) : Option (Nat × List Char) := readDigits? 2 (skipBlank text)

/-- Reads one item of a layout. -/
def Item.read? (r : Reading) (text : List Char) : Item → Option (Reading × List Char)
  | year => (readYear? (skipBlank text)).map fun (n, rest) =>
      ({ r with date := { r.date with year := n } }, rest)
  | month => (readTwo? text).map fun (n, rest) =>
      ({ r with date := { r.date with month := n } }, rest)
  | day => (readTwo? text).map fun (n, rest) => ({ r with date := { r.date with day := n } }, rest)
  | hour => (readTwo? text).map fun (n, rest) =>
      ({ r with time := { r.time with hour := n } }, rest)
  | minute => (readTwo? text).map fun (n, rest) =>
      ({ r with time := { r.time with minute := n } }, rest)
  | second => (readTwo? text).map fun (n, rest) =>
      ({ r with time := { r.time with second := n } }, rest)
  | fraction => (readFraction? text).map fun (n, rest) =>
      ({ r with time := { r.time with nanos := n } }, rest)
  | blank => some (r, skipBlank text)
  | char c => (expectChar? c text).map fun rest => (r, rest)

/-- Reads the items of a layout up to the end of the text. -/
def readItems? (r : Reading) (text : List Char) : Layout → Option Reading
  | [] => if text.isEmpty then some r else none
  | item :: more => do
      let (r, rest) ← item.read? r text
      readItems? r rest more

/-- The instant of a text in a layout, in UTC. -/
def Layout.read? (layout : Layout) (text : List Char) : Option Instant := do
  let r ← readItems? {} text layout
  if r.date.valid && validTime r.time then pure (Instant.ofDateTime r.date r.time) else none

/-- Year, month and day, in this order. -/
def yearFirst (separator : Char) : Layout := [.year, .char separator, .month, .char separator, .day]

/-- Hour and minute. -/
def toMinute : Layout := [.hour, .char ':', .minute]

/-- Hour, minute and second. -/
def toSecond : Layout := toMinute ++ [.char ':', .second]

/-- The layouts, in the order in which they are tried. -/
def layouts : List Layout :=
  [ yearFirst '-' ++ [.char 'T'] ++ toSecond ++ [.fraction],
    yearFirst '-' ++ [.char 'T'] ++ toMinute,
    yearFirst '-' ++ [.blank] ++ toSecond ++ [.fraction],
    yearFirst '-' ++ [.blank] ++ toMinute,
    yearFirst '/' ++ [.blank] ++ toSecond,
    yearFirst '/' ++ [.blank] ++ toMinute,
    yearFirst '-',
    yearFirst '/',
    [.month, .char '/', .day, .char '/', .year] ]

/-! ## Any form -/

/-- The integer that a text is, if it fits 64 bits.  A sign may be in front. -/
def readInt64? (text : List Char) : Option Int64 :=
  (Decimal.integer? text).bind fun n =>
    if Width.isInt64 n then some (Int64.ofInt n) else none

/-- The instant of a date text in any form. -/
def read? (text : List Char) : Option Instant :=
  let text := trim text
  (readZoned? text).or <|
    (layouts.findSome? fun layout => layout.read? text).or <|
      (readInt64? text).bind fun n => Instant.ofMillis? n.toInt

end DateText

example : (DateText.read? " 2025-01-01T10:30:00.123+02:00".toList).map Instant.millis
    = some 1735720200123 := by
  decide +kernel

example : DateText.read? "2025-02-29".toList = none := by decide +kernel

end ShellQuery
