/-!
# Hexadecimal digits

The digits of base sixteen in either case, and the numbers that lists of them write.
-/

namespace InterfaceSync.Text

/-- The value of a hexadecimal digit. -/
def hexDigit? (c : Char) : Option Nat :=
  if c.isDigit then some (c.toNat - '0'.toNat)
  else if 'a' ≤ c ∧ c ≤ 'f' then some (c.toNat - 'a'.toNat + 10)
  else if 'A' ≤ c ∧ c ≤ 'F' then some (c.toNat - 'A'.toNat + 10)
  else none

/-- The number written by digits of a base, the most significant one first; what is no digit counts
as zero. -/
def numberInBase (base : Nat) (digits : List Char) : Nat :=
  digits.foldl (fun n c => base * n + (hexDigit? c).getD 0) 0

/-- The number written by hexadecimal digits. -/
def hexNumber (digits : List Char) : Nat := numberInBase 16 digits

end InterfaceSync.Text
