/-!
# Hexadecimal digits

A digit may be written in lower case or in upper case; its value is the same.
-/

namespace KernelGuise.Hex

def value? (c : Char) : Option Nat :=
  if c.isDigit then some (c.toNat - '0'.toNat)
  else if 'a' ≤ c.toLower ∧ c.toLower ≤ 'f' then some (c.toLower.toNat - 'a'.toNat + 10)
  else none

/-- A digit has the value that it is written for. -/
theorem value?_digitChar {d : Nat} (h : d < 16) : value? d.digitChar = some d := by
  have hd : ∀ d < 16, value? (Nat.digitChar d) = some d := by decide
  exact hd d h

/-- A digit in upper case has the value that it is written for. -/
theorem value?_toUpper {d : Nat} (h : d < 16) : value? d.digitChar.toUpper = some d := by
  have hd : ∀ d < 16, value? (Nat.digitChar d).toUpper = some d := by decide
  exact hd d h

end KernelGuise.Hex
