import ShellQuery.Calendar.Date
import ShellQuery.Number.Decimal
import ShellQuery.Text.Hex
import ShellQuery.Toml.Value

/-!
# Bare TOML values

The values that stand without quotes and brackets: booleans, numbers, dates and
times.  Digits may be set apart by single underscores.  A decimal number has no
zero in front.  An integer has no more than 128 bits.
-/

namespace ShellQuery.Toml

/-! ## Numbers -/

/-- The digits of a text with underscores between them, without the underscores. -/
def groupedDigits? (isDigit : Char → Bool) (text : List Char) : Option (List Char) :=
  let groups := text.splitOn '_'
  if groups.all fun g => !g.isEmpty && g.all isDigit then some groups.flatten else none

/-- The value of digits in a base. -/
def valueInBase (base : Nat) (digits : List Char) : Nat :=
  digits.foldl (fun n c => n * base + ((Text.hexDigit? c).map Fin.val).getD 0) 0

/-- Whether a character is a digit in a base. -/
def isDigitInBase (base : Nat) (c : Char) : Bool := (Text.hexDigit? c).any (·.val < base)

/-- An integer that fits. -/
def fitting (n : Int) : Option Toml :=
  if -(Nat.pow 2 127 : Int) ≤ n && n < (Nat.pow 2 128 : Int) then some (.integer n) else none

/-- A text without its sign, and whether it is negative. -/
def unsigned : List Char → List Char × Bool
  | '+' :: rest => (rest, false)
  | '-' :: rest => (rest, true)
  | text => (text, false)

/-- The digits of a decimal number without a zero in front. -/
def decimalDigits? (text : List Char) : Option (List Char) :=
  match groupedDigits? Char.isDigit text with
  | some ('0' :: _ :: _) => none
  | digits => digits

/-- The integer that a word stands for. -/
def integer? (word : List Char) : Option Toml :=
  match word with
  | '0' :: 'x' :: digits => inBase 16 digits
  | '0' :: 'o' :: digits => inBase 8 digits
  | '0' :: 'b' :: digits => inBase 2 digits
  | _ =>
      let (digits, negative) := unsigned word
      (decimalDigits? digits).bind fun ds =>
        let n : Int := Decimal.digitsValue ds
        fitting (if negative then -n else n)
where
  /-- The integer of digits in a base. -/
  inBase (base : Nat) (digits : List Char) : Option Toml :=
    (groupedDigits? (isDigitInBase base) digits).bind fun ds => fitting (valueInBase base ds)

/-- Whether a text is an exponent. -/
def isExponent (text : List Char) : Bool :=
  (groupedDigits? Char.isDigit (unsigned text).1).isSome

/-- Whether a word is a number with a fraction or an exponent, or infinite, or no
number at all. -/
def isFloat (word : List Char) : Bool :=
  let (text, _) := unsigned word
  if text == "inf".toList || text == "nan".toList then true
  else
    let isMark : Char → Bool := fun c => c == 'e' || c == 'E'
    let mantissa := text.takeWhile (!isMark ·)
    let exponent := text.dropWhile (!isMark ·)
    let whole := mantissa.takeWhile (· != '.')
    let fraction := mantissa.dropWhile (· != '.')
    (decimalDigits? whole).isSome
      && (fraction.isEmpty || (groupedDigits? Char.isDigit fraction.tail).isSome)
      && (exponent.isEmpty || isExponent exponent.tail)
      && !(fraction.isEmpty && exponent.isEmpty)

/-! ## Dates and times -/

/-- The number of two digits at the start of a text. -/
def twoDigits? : List Char → Option (Nat × List Char)
  | a :: b :: rest =>
      if a.isDigit && b.isDigit then some (Decimal.digitsValue [a, b], rest) else none
  | _ => none

/-- The text behind a date. -/
def afterDate? (text : List Char) : Option (List Char) := do
  let year := text.take 4
  if !(year.length = 4 && year.all Char.isDigit) then none
  else
    match text.drop 4 with
    | '-' :: rest =>
        let (month, rest) ← twoDigits? rest
        match rest with
        | '-' :: rest =>
            let (day, rest) ← twoDigits? rest
            let date : Date := ⟨Decimal.digitsValue year, month, day⟩
            if date.valid then some rest else none
        | _ => none
    | _ => none

/-- The text behind the seconds and their fraction. -/
def afterSeconds? : List Char → Option (List Char)
  | ':' :: rest => do
      let (second, rest) ← twoDigits? rest
      if 60 < second then none
      else
        match rest with
        | '.' :: rest =>
            match rest with
            | c :: _ => if c.isDigit then some (rest.dropWhile Char.isDigit) else none
            | [] => none
        | _ => some rest
  | rest => some rest

/-- The text behind a time.  The seconds may be left out. -/
def afterTime? (text : List Char) : Option (List Char) := do
  let (hour, rest) ← twoDigits? text
  match rest with
  | ':' :: rest =>
      let (minute, rest) ← twoDigits? rest
      if 23 < hour || 59 < minute then none else afterSeconds? rest
  | _ => none

/-- Whether a text is a zone.  It may be empty. -/
def isZone : List Char → Bool
  | [] | ['Z'] | ['z'] => true
  | sign :: rest =>
      (sign == '+' || sign == '-')
        && (match twoDigits? rest with
            | some (hour, ':' :: rest) =>
                hour < 24
                  && (match twoDigits? rest with
                      | some (minute, []) => minute < 60
                      | _ => false)
            | _ => false)

/-- Whether a word is a date, a time or both.  A zone needs both. -/
def isDate (word : List Char) : Bool :=
  match afterDate? word with
  | some [] => true
  | some (sep :: rest) =>
      (sep == 'T' || sep == 't' || sep == ' ') && (afterTime? rest).any isZone
  | none => (afterTime? word).any List.isEmpty

/-- The value that a word stands for. -/
def ofWord? (word : List Char) : Option Toml :=
  if word == "true".toList then some (.boolean true)
  else if word == "false".toList then some (.boolean false)
  else if isDate word then some .date
  else if isFloat word then some .float
  else integer? word

end ShellQuery.Toml
