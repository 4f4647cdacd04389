/-!
# Decimal numbers

The value of decimal digits, and the numbers that whole texts stand for.  A sign
may be in front where it makes sense, and nothing but ASCII digits may follow.
-/

namespace ShellQuery.Decimal

/-- The value of digits. -/
def digitsValue (digits : List Char) : Nat :=
  digits.foldl (fun n c => n * 10 + (c.toNat - '0'.toNat)) 0

/-- The natural number that digits stand for.  There has to be one at least. -/
def digits? (text : List Char) : Option Nat :=
  if text.isEmpty || !text.all Char.isDigit then none else some (digitsValue text)

/-- The natural number that a text stands for, with or without a plus sign. -/
def natural? : List Char → Option Nat
  | '+' :: rest => digits? rest
  | text => digits? text

/-- The integer that a text stands for, with or without a sign. -/
def integer? : List Char → Option Int
  | '-' :: rest => (digits? rest).map fun n => -(n : Int)
  | text => (natural? text).map Int.ofNat

example : integer? "-12".toList = some (-12) ∧ natural? "+7".toList = some 7 := by decide
example : natural? "".toList = none ∧ natural? "1_0".toList = none := by decide

end ShellQuery.Decimal
