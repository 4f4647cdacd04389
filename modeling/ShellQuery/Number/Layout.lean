import ShellQuery.Number.Shortest

/-!
# Number texts

How a number is written with its shortest digits.  A `FloatLayout` says which
exponents are written positionally.  A positional text has at least one digit
after the point.  Outside its range a number is written with an exponent that
always has a sign.
-/

namespace ShellQuery

/-- The decimal text of a natural number. -/
def natText (n : Nat) : List Char := Nat.toDigits 10 n

/-- The decimal text of an integer. -/
def intText (n : Int) : List Char :=
  if n < 0 then '-' :: natText n.natAbs else natText n.natAbs

/-- Which exponents of the leading digit are written positionally. -/
structure FloatLayout where
  /-- The range, or `none` when every number is written positionally. -/
  positional : Option (Int × Int)

namespace FloatLayout

/-- JSON text is positional from `1e-5` up to `1e16`. -/
def json : FloatLayout := ⟨some (-5, 15)⟩

/-- Plain text never has an exponent. -/
def plain : FloatLayout := ⟨none⟩

/-- The text of `digits · 10 ^ exponent` with a point and no exponent. -/
def positionalText (digits : List Char) (exponent : Int) : List Char :=
  let length : Int := digits.length
  let point := length + exponent
  if 0 ≤ exponent then digits ++ List.replicate exponent.toNat '0' ++ ['.', '0']
  else if 0 < point then digits.take point.toNat ++ ['.'] ++ digits.drop point.toNat
  else ['0', '.'] ++ List.replicate (-point).toNat '0' ++ digits

/-- The text of `digits · 10 ^ exponent` with one digit before the point. -/
def scientificText (digits : List Char) (exponent : Int) : List Char :=
  let top := exponent + (digits.length : Int) - 1
  let sign := if top < 0 then '-' else '+'
  let mantissa :=
    match digits with
    | [] => []
    | [d] => [d]
    | d :: more => d :: '.' :: more
  mantissa ++ ['e', sign] ++ natText top.natAbs

/-- The text of a finite number.  `none` stands for infinities and NaN. -/
def text? (layout : FloatLayout) (x : Float) : Option (List Char) :=
  (Binary64.parts? x).map fun p =>
    let sign := if p.negative then ['-'] else []
    if p.significand = 0 then sign ++ ['0', '.', '0']
    else
      let d := Binary64.shortest p
      let digits := natText d.digits
      let top := d.exponent + (digits.length : Int) - 1
      let positional :=
        match layout.positional with
        | none => true
        | some (low, high) => low ≤ top && top ≤ high
      sign ++
        if positional then positionalText digits d.exponent else scientificText digits d.exponent

example : json.text? 100 = some "100.0".toList ∧ json.text? 0.00001 = some "0.00001".toList := by
  decide +kernel

example : json.text? 1e16 = some "1e+16".toList ∧ json.text? 1.5e300 = some "1.5e+300".toList := by
  decide +kernel

example : plain.text? 1e17 = some "100000000000000000.0".toList := by decide +kernel

end FloatLayout

end ShellQuery
