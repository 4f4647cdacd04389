/-!
# Widths of integers

The ranges of integers of 32 and of 64 bits, with and without a sign.
-/

namespace ShellQuery.Width

/-- The least integer of 32 bits. -/
def int32Min : Int := -2147483648

/-- The greatest integer of 32 bits. -/
def int32Max : Int := 2147483647

/-- The least integer of 64 bits. -/
def int64Min : Int := -9223372036854775808

/-- The greatest integer of 64 bits. -/
def int64Max : Int := 9223372036854775807

/-- How many natural numbers have 32 bits. -/
def words32 : Nat := 4294967296

/-- How many natural numbers have 64 bits. -/
def words64 : Nat := 18446744073709551616

/-- Whether an integer has 32 bits. -/
def isInt32 (n : Int) : Bool := int32Min ≤ n && n ≤ int32Max

/-- Whether an integer has 64 bits. -/
def isInt64 (n : Int) : Bool := int64Min ≤ n && n ≤ int64Max

theorem isInt32_iff {n : Int} :
    isInt32 n = true ↔ -2147483648 ≤ n ∧ n ≤ 2147483647 := by
  rw [isInt32, Bool.and_eq_true, decide_eq_true_eq, decide_eq_true_eq]
  exact Iff.rfl

theorem isInt64_iff {n : Int} :
    isInt64 n = true ↔ -9223372036854775808 ≤ n ∧ n ≤ 9223372036854775807 := by
  rw [isInt64, Bool.and_eq_true, decide_eq_true_eq, decide_eq_true_eq]
  exact Iff.rfl

theorem isInt32_toInt (n : Int32) : isInt32 n.toInt = true := by
  have low := n.le_toInt
  have high := n.toInt_lt
  exact isInt32_iff.2 (by omega)

theorem isInt64_toInt (n : Int64) : isInt64 n.toInt = true := by
  have low := n.le_toInt
  have high := n.toInt_lt
  exact isInt64_iff.2 (by omega)

theorem exists_int32 {n : Int} (h : isInt32 n = true) : ∃ m : Int32, m.toInt = n := by
  have bounds := isInt32_iff.1 h
  exact ⟨Int32.ofInt n, Int32.toInt_ofInt_of_le (by omega) (by omega)⟩

theorem exists_int64 {n : Int} (h : isInt64 n = true) : ∃ m : Int64, m.toInt = n := by
  have bounds := isInt64_iff.1 h
  exact ⟨Int64.ofInt n, Int64.toInt_ofInt_of_le (by omega) (by omega)⟩

theorem isInt64_of_isInt32 {n : Int} (h : isInt32 n = true) : isInt64 n = true := by
  have bounds := isInt32_iff.1 h
  exact isInt64_iff.2 (by omega)

end ShellQuery.Width
