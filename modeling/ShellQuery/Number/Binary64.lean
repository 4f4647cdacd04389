/-!
# The exact value of a binary64 number

A finite binary64 number is `± significand · 2 ^ exponent` with a natural
significand below `2 ^ 53` and an exponent of at least `-1074`.
`Binary64.parts?` reads the three off the bits of the number, and everything
exact in this library starts from them.
-/

namespace ShellQuery.Binary64

/-- A finite binary64 number, taken apart. -/
structure Parts where
  /-- Whether the sign bit is set. -/
  negative : Bool
  /-- The significand, with the hidden bit. -/
  significand : Nat
  /-- The power of two that the significand is scaled by. -/
  exponent : Int
  /-- Whether the gap to the next smaller magnitude is half the gap above.  It is
  at a power of two, the smallest normal one apart. -/
  narrowBelow : Bool
  deriving DecidableEq, Repr

/-- The bit of the significand that is not stored, the 53rd. -/
def hiddenBit : Nat := 4503599627370496

/-- The bit of the sign, the 64th. -/
def signBit : Nat := 9223372036854775808

/-- The parts of a finite number.  Infinities and NaN have none. -/
def parts? (x : Float) : Option Parts :=
  let bits : Nat := x.toBits.toNat
  let biased : Nat := bits / hiddenBit % 2048
  let fraction : Nat := bits % hiddenBit
  let negative := signBit ≤ bits
  if biased = 2047 then none
  else if biased = 0 then some ⟨negative, fraction, -1074, false⟩
  else some ⟨negative, hiddenBit + fraction, (biased : Int) - 1075, fraction == 0 && 1 < biased⟩

/-- The integer a number equals, if it equals one. -/
def integer? (x : Float) : Option Int :=
  (parts? x).bind fun p =>
    let magnitude : Option Nat :=
      if 0 ≤ p.exponent then some (p.significand * Nat.pow 2 p.exponent.toNat)
      else
        let scale := Nat.pow 2 (-p.exponent).toNat
        if p.significand % scale = 0 then some (p.significand / scale) else none
    magnitude.map fun m => if p.negative then -(m : Int) else (m : Int)

example : integer? 1e3 = some 1000 ∧ integer? (-2.5) = none ∧ integer? (-0.0) = some 0 := by
  decide +kernel

example : parts? (1.0 / 0.0) = none := by decide +kernel

end ShellQuery.Binary64
