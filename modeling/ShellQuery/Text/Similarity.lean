/-!
# Similar words

How alike two words are, by the measure of Jaro and by that of Winkler, who adds
to it for a common beginning.  Both are fractions from zero to one.

Two characters match if they are equal and not further apart than half the longer
word.  Each character matches at most once.  Matches that come in another order
lower the measure.
-/

namespace ShellQuery.Text

/-- A fraction of natural numbers.  Its denominator is positive. -/
structure Fraction where
  /-- The numerator. -/
  num : Nat
  /-- The denominator. -/
  den : Nat
  deriving DecidableEq, Repr

namespace Fraction

/-- Whether one fraction is less than another. -/
def lt (a b : Fraction) : Bool := a.num * b.den < b.num * a.den

/-- Whether one fraction is at most another. -/
def le (a b : Fraction) : Bool := a.num * b.den ≤ b.num * a.den

end Fraction

/-- The word with the character at the first free place from `low` on and before
`high` that equals `c` marked as taken. -/
def takeMatch (c : Char) (low high : Nat) : List (Char × Bool) → Option (List (Char × Bool))
  | [] => none
  | (d, taken) :: rest =>
      if high = 0 then none
      else if low = 0 && c == d && !taken then some ((d, true) :: rest)
      else (takeMatch c (low - 1) (high - 1) rest).map ((d, taken) :: ·)

/-- The characters of the first word that match, and the second word with its
matches marked.  `place` is the place of the first character. -/
def matchWords (range place : Nat) : List Char → List (Char × Bool) →
    List Char × List (Char × Bool)
  | [], word => ([], word)
  | c :: rest, word =>
      match takeMatch c (place - range) (place + range + 1) word with
      | some word =>
          let (found, word) := matchWords range (place + 1) rest word
          (c :: found, word)
      | none => matchWords range (place + 1) rest word

/-- The measure of Jaro. -/
def jaro (a b : List Char) : Fraction :=
  if a.isEmpty && b.isEmpty then ⟨1, 1⟩
  else
    let range := max a.length b.length / 2 - 1
    let (left, marked) := matchWords range 0 a (b.map (·, false))
    let right := (marked.filter Prod.snd).map Prod.fst
    let matched := left.length
    if matched = 0 then ⟨0, 1⟩
    else
      let moved := ((left.zip right).countP fun (c, d) => c != d) / 2
      let la := a.length
      let lb := b.length
      ⟨matched * matched * lb + matched * matched * la + (matched - moved) * la * lb,
        3 * matched * la * lb⟩

/-- The length of the common beginning, up to four characters. -/
def commonStart (a b : List Char) : Nat :=
  (((a.take 4).zip b).takeWhile fun (c, d) => c == d).length

/-- The measure of Winkler. -/
def jaroWinkler (a b : List Char) : Fraction :=
  let sim := jaro a b
  if Fraction.lt ⟨7, 10⟩ sim then
    ⟨10 * sim.num + commonStart a b * (sim.den - sim.num), 10 * sim.den⟩
  else sim

example : Fraction.le (jaro "martha".toList "marhta".toList) ⟨17, 18⟩ ∧
    Fraction.le ⟨17, 18⟩ (jaro "martha".toList "marhta".toList) := by decide

end ShellQuery.Text
