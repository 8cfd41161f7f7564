/-!
# Digits

Values of digits and of the numbers that they write.
-/

namespace Delimited

/-- The value of a hexadecimal digit, in either case. -/
def hexValue? (c : Char) : Option Nat :=
  if '0' ≤ c ∧ c ≤ '9' then some (c.toNat - '0'.toNat)
  else if 'a' ≤ c ∧ c ≤ 'f' then some (c.toNat - 'a'.toNat + 10)
  else if 'A' ≤ c ∧ c ≤ 'F' then some (c.toNat - 'A'.toNat + 10)
  else none

/-- The value of digits in a base; a character that is no digit counts as zero. -/
def numberInBase (base : Nat) (ds : List Char) : Nat := ds.foldl (fun n c => base * n + (hexValue? c).getD 0) 0

/-- The character with a code point, unless there is none. -/
def charOfCode? (n : Nat) : Option Char :=
  if n < 0xD800 ∨ 0xDFFF < n ∧ n < 0x110000 then some (Char.ofNat n) else none

end Delimited
