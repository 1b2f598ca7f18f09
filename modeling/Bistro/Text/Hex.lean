import Bistro.Text.Decimal

/-!
# Hexadecimal digits

Digits are read in both cases.
-/

namespace Bistro

namespace Hex

/-- What a character is worth as a digit. -/
def value? (c : Char) : Option Nat :=
  if Decimal.isDigit c then some (Decimal.digitValue c)
  else if 'a' ≤ c ∧ c ≤ 'f' then some (c.toNat - 'a'.toNat + 10)
  else if 'A' ≤ c ∧ c ≤ 'F' then some (c.toNat - 'A'.toNat + 10)
  else none

def isDigit (c : Char) : Bool :=
  (value? c).isSome

/-- The number that digits of a base up to sixteen stand for. -/
def number (base : Nat) (digits : List Char) : Nat :=
  digits.foldl (fun n c => n * base + (value? c).getD 0) 0

end Hex

end Bistro
