import ShellQuery.Number.Decimal
import ShellQuery.Number.Layout

/-!
# Digits read back

The text of a number holds digits only, and its value is the number.
-/

namespace ShellQuery

open ShellQuery.Decimal (digitsValue)

theorem isDigit_of_mem_natText {n : Nat} {c : Char} (h : c ∈ natText n) : c.isDigit = true := by
  have hc : c ∈ Nat.toDigits 10 n := h
  exact Nat.isDigit_of_mem_toDigits (by omega) (by omega) hc

theorem all_isDigit_natText (n : Nat) : (natText n).all Char.isDigit = true :=
  List.all_eq_true.2 fun _ hc => isDigit_of_mem_natText hc

theorem natText_ne_nil (n : Nat) : natText n ≠ [] := Nat.toDigits_ne_nil

/-- The value of the digits of a number is the number. -/
theorem digitsValue_natText (n : Nat) : digitsValue (natText n) = n := by
  have h := Nat.ofDigitChars_ten_toDigits (n := n)
  rw [Nat.ofDigitChars_eq_foldl] at h
  have hf : (fun n (c : Char) => n * 10 + (c.toNat - '0'.toNat))
      = fun n c => 10 * n + (c.toNat - '0'.toNat) := by
    funext m c
    rw [Nat.mul_comm]
  rw [digitsValue, hf]
  exact h

namespace Decimal

theorem digits?_natText (n : Nat) : digits? (natText n) = some n := by
  have hempty : (natText n).isEmpty = false := List.isEmpty_eq_false_iff.2 (natText_ne_nil n)
  rw [digits?, hempty, all_isDigit_natText, digitsValue_natText]
  rfl

theorem integer?_natText (n : Nat) : integer? (natText n) = some (n : Int) := by
  have hdigits := digits?_natText n
  have hdigit : ∀ c, c ∈ natText n → c.isDigit = true := fun c => isDigit_of_mem_natText
  have hne := natText_ne_nil n
  generalize natText n = digits at hdigits hdigit hne
  cases digits with
  | nil => exact absurd rfl hne
  | cons c rest =>
    have hc := hdigit c (List.mem_cons_self ..)
    have hminus : c ≠ '-' := by
      rintro rfl
      exact absurd hc (by decide)
    have hplus : c ≠ '+' := by
      rintro rfl
      exact absurd hc (by decide)
    rw [integer?.eq_2 _ fun _ h => hminus (List.cons.inj h).1,
      natural?.eq_2 _ fun _ h => hplus (List.cons.inj h).1, hdigits]
    rfl

/-- The integer that a text of an integer stands for is that integer. -/
theorem integer?_intText (n : Int) : integer? (intText n) = some n := by
  rw [intText]
  split
  next hneg =>
    have habs : -(n.natAbs : Int) = n := by omega
    rw [integer?, digits?_natText]
    exact congrArg some habs
  next hnonneg =>
    have habs : (n.natAbs : Int) = n := by omega
    rw [integer?_natText, habs]

end Decimal

end ShellQuery
