/-!
# Hexadecimal digits

A digit is read in either case and written in lower case.
-/

namespace ShellQuery.Text

/-- The value of a hexadecimal digit. -/
def hexDigit? (c : Char) : Option (Fin 16) :=
  if c.isDigit then some (Fin.ofNat 16 (c.toNat - '0'.toNat))
  else if 'a' ≤ c ∧ c ≤ 'f' then some (Fin.ofNat 16 (c.toNat - 'a'.toNat + 10))
  else if 'A' ≤ c ∧ c ≤ 'F' then some (Fin.ofNat 16 (c.toNat - 'A'.toNat + 10))
  else none

/-- The digit with a value, in lower case. -/
def hexDigit (n : Nat) : Char := Nat.digitChar (n % 16)

theorem hexDigit?_hexDigit (d : Fin 16) : hexDigit? (hexDigit d.val) = some d := by
  revert d
  decide

end ShellQuery.Text
