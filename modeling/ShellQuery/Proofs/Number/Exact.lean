import Mathlib.Algebra.Order.Field.Rat
import Mathlib.Algebra.Order.Ring.Int
import ShellQuery.Json.Value
import ShellQuery.Number.Binary64

/-!
# The value of a number

A JSON number stands for a rational number.  An integer stands for itself, and a finite
binary64 number for its significand scaled by its power of two.  `integer?` finds the
integer that a binary64 number equals, just if there is one.
-/

namespace ShellQuery

namespace Binary64

/-- The rational number that the parts stand for. -/
def Parts.value (p : Parts) : ℚ :=
  let magnitude : ℚ := p.significand * 2 ^ p.exponent
  if p.negative then -magnitude else magnitude

theorem cast_two_pow (k : ℕ) : ((Nat.pow 2 k : ℕ) : ℚ) = 2 ^ k := by
  rw [Nat.pow_eq, Nat.cast_pow, Nat.cast_ofNat]

/-- A significand scaled down is a natural number just if the power of two divides it. -/
theorem scaled_eq_iff {s k m : ℕ} :
    (s : ℚ) * 2 ^ (-(k : ℤ)) = m ↔ s % Nat.pow 2 k = 0 ∧ s / Nat.pow 2 k = m := by
  have hpos : 0 < Nat.pow 2 k := Nat.pow_pos (by decide)
  have hne : (2 : ℚ) ^ k ≠ 0 := pow_ne_zero k (by decide)
  have hcast : (s : ℚ) * 2 ^ (-(k : ℤ)) = m ↔ s = m * Nat.pow 2 k := by
    rw [zpow_neg, zpow_natCast, mul_inv_eq_iff_eq_mul₀ hne, ← cast_two_pow]
    exact_mod_cast Iff.rfl
  rw [hcast]
  constructor
  · rintro rfl
    exact ⟨Nat.mul_mod_left _ _, Nat.mul_div_cancel _ hpos⟩
  · rintro ⟨hmod, rfl⟩
    exact (Nat.div_mul_cancel (Nat.dvd_of_mod_eq_zero hmod)).symm

/-- A significand scaled up or down is a natural number in one way. -/
theorem magnitude_eq_some_iff {s m : ℕ} {e : ℤ} :
    (if 0 ≤ e then some (s * Nat.pow 2 e.toNat)
      else if s % Nat.pow 2 (-e).toNat = 0 then some (s / Nat.pow 2 (-e).toNat) else none)
        = some m
      ↔ (s : ℚ) * 2 ^ e = m := by
  by_cases he : 0 ≤ e
  · obtain ⟨k, rfl⟩ := Int.eq_ofNat_of_zero_le he
    rw [if_pos he, Int.toNat_natCast, Option.some.injEq, zpow_natCast, ← cast_two_pow]
    exact_mod_cast Iff.rfl
  · obtain ⟨k, hk⟩ := Int.eq_ofNat_of_zero_le (a := -e) (by omega)
    obtain rfl : e = -(k : ℤ) := by omega
    rw [if_neg he, scaled_eq_iff, Int.neg_neg, Int.toNat_natCast]
    exact Option.ite_none_right_eq_some.trans (and_congr_right fun _ => by rw [Option.some.injEq])

/-- The integer that is found is the value, and it is found if the value is one. -/
theorem integer?_eq_some_iff {x : Float} {n : ℤ} :
    integer? x = some n ↔ ∃ p, parts? x = some p ∧ p.value = n := by
  rw [integer?, Option.bind_eq_some_iff]
  refine exists_congr fun p => and_congr_right fun _ => ?_
  have hnonneg : (0 : ℚ) ≤ p.significand * 2 ^ p.exponent :=
    mul_nonneg (Nat.cast_nonneg _) (zpow_nonneg (by decide) _)
  rw [Option.map_eq_some_iff, Parts.value]
  simp only [Option.bind_eq_bind, Option.bind_eq_some_iff, Option.pure_def, Option.some.injEq,
    magnitude_eq_some_iff]
  generalize (p.significand : ℚ) * 2 ^ p.exponent = magnitude at hnonneg
  constructor
  · rintro ⟨_, ⟨m, rfl, rfl⟩, rfl⟩
    split <;> simp
  · intro hn
    cases hneg : p.negative with
    | true =>
      rw [hneg, if_pos rfl] at hn
      have hle : n ≤ 0 := by exact_mod_cast hn ▸ neg_nonpos.2 hnonneg
      refine ⟨-n, ⟨n.natAbs, ?_, by omega⟩, by simp⟩
      rw [← neg_neg magnitude, hn, Nat.cast_natAbs, abs_of_nonpos hle, Int.cast_neg]
    | false =>
      rw [hneg, if_neg Bool.false_ne_true] at hn
      have hle : 0 ≤ n := by exact_mod_cast hn ▸ hnonneg
      refine ⟨n, ⟨n.natAbs, ?_, by omega⟩, by simp⟩
      rw [hn, Nat.cast_natAbs, abs_of_nonneg hle]

end Binary64

namespace JsonNumber

/-- The rational number that a JSON number stands for. -/
def value? : JsonNumber → Option ℚ
  | int n => some n
  | float x => (Binary64.parts? x).map Binary64.Parts.value

/-- The integer that a JSON number equals, if it equals one. -/
def integer? : JsonNumber → Option ℤ
  | int n => some n
  | float x => Binary64.integer? x

theorem integer?_eq_some_iff {number : JsonNumber} {n : ℤ} :
    number.integer? = some n ↔ number.value? = some (n : ℚ) := by
  cases number with
  | int m => simp [integer?, value?]
  | float x => rw [integer?, value?, Binary64.integer?_eq_some_iff, Option.map_eq_some_iff]

end JsonNumber

end ShellQuery
