import ShellQuery.Number.Binary64

/-!
# The shortest decimal of a binary64 number

Of the decimals that round to a given number, the shortest is written, and of
several shortest ones the nearest to the number.  A decimal rounds to the number
when it lies between the midpoints to the two neighbours, and a midpoint itself
counts when the significand is even.

For 1, 2, … 17 digits `shortest` looks at the two decimals of that length next to
the number.  The first length at which one of them rounds to the number is the
shortest there is.  All of it is exact arithmetic on natural numbers.
-/

namespace ShellQuery.Binary64

/-- A positive decimal `digits · 10 ^ exponent`. -/
structure Decimal where
  /-- The digits, read as one number. -/
  digits : Nat
  /-- The power of ten they are scaled by. -/
  exponent : Int
  deriving DecidableEq, Repr

/-- A quotient of two naturals together with the half gaps to its neighbours, on
one denominator: the interval is `(value - below) / unit` to `(value + above) / unit`. -/
structure Interval where
  /-- The number. -/
  value : Nat
  /-- The distance to the lower midpoint. -/
  below : Nat
  /-- The distance to the upper midpoint. -/
  above : Nat
  /-- The common denominator. -/
  unit : Nat
  /-- Whether the midpoints belong to the interval. -/
  closed : Bool

/-- The numbers that round to a given one.  Its significand is taken four times,
so that the midpoints are integers too. -/
def Interval.of (p : Parts) : Interval :=
  let scale := p.exponent - 2
  let up := Nat.pow 2 scale.toNat
  { value := 4 * p.significand * up
    below := (if p.narrowBelow then 1 else 2) * up
    above := 2 * up
    unit := Nat.pow 2 (-scale).toNat
    closed := p.significand % 2 == 0 }

/-- Whether a quotient lies in the interval. -/
def Interval.contains (i : Interval) (num den : Nat) : Bool :=
  let x := num * i.unit
  let low := (i.value - i.below) * den
  let high := (i.value + i.above) * den
  if i.closed then low ≤ x && x ≤ high else low < x && x < high

/-- The power of ten at or below a quotient, searched upwards from `e` for at most
the given number of steps. -/
def floorLog10From (num den : Nat) : Nat → Int → Int
  | 0, e => e
  | steps + 1, e =>
      let next := e + 1
      if den * Nat.pow 10 next.toNat ≤ num * Nat.pow 10 (-next).toNat then
        floorLog10From num den steps next
      else e

/-- The power of ten at or below a positive quotient.  The search starts from the
powers of two of the two numbers, with `log 2 = 0.30103`. -/
def floorLog10 (num den : Nat) : Int :=
  floorLog10From num den 4 (((num.log2 : Int) - den.log2 - 1) * 30103 / 100000 - 1)

/-- The decimal of `n` digits next to the number that rounds to it, if there is
one.  `top` is the power of ten of the leading digit. -/
def ofLength? (i : Interval) (top : Int) (n : Nat) : Option Decimal :=
  let grid := top - (n : Int) + 1
  let up := Nat.pow 10 grid.toNat
  let down := Nat.pow 10 (-grid).toNat
  let low := i.value * down / (i.unit * up)
  let inside (d : Nat) := i.contains (d * up) down
  let twice := 2 * i.value * down
  let middle := (2 * low + 1) * (i.unit * up)
  let nearer := if twice < middle || (twice == middle && low % 2 == 0) then low else low + 1
  let farther := if nearer = low then low + 1 else low
  if inside nearer then some ⟨nearer, grid⟩
  else if inside farther then some ⟨farther, grid⟩
  else none

/-- The digits of a decimal without the zeros at their end. -/
def Decimal.strip (d : Decimal) : Nat → Decimal
  | 0 => d
  | fuel + 1 =>
      if d.digits % 10 = 0 && d.digits ≠ 0 then
        Decimal.strip ⟨d.digits / 10, d.exponent + 1⟩ fuel
      else d

/-- The shortest decimal that rounds to a positive number, the nearest of them. -/
def shortest (p : Parts) : Decimal :=
  let i := Interval.of p
  let top := floorLog10 i.value i.unit
  let found := (List.range 17).findSome? fun n => ofLength? i top (n + 1)
  (found.getD ⟨p.significand, p.exponent⟩).strip 20

example : (parts? 0.1).map shortest = some ⟨1, -1⟩ := by decide +kernel
example : (parts? 5e-324).map shortest = some ⟨5, -324⟩ := by decide +kernel
example : (parts? 1e23).map shortest = some ⟨1, 23⟩ := by decide +kernel

end ShellQuery.Binary64
