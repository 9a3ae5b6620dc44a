/-!
# Digits

Numbers as digits in a base up to sixteen, the bounds of numbers of 64 bits, and the characters
whose code points numbers are.
-/
namespace SchemaSdk.Text

/-- The digits of a number in base sixteen, lower case, without leading zeros. -/
def hexDigits (n : Nat) : List Char :=
  Nat.toDigits 16 n

/-- The value of a hexadecimal digit of either case. -/
def hexDigit? (c : Char) : Option Nat :=
  if '0' ≤ c ∧ c ≤ '9' then some (c.toNat - '0'.toNat)
  else if 'a' ≤ c ∧ c ≤ 'f' then some (c.toNat - 'a'.toNat + 10)
  else if 'A' ≤ c ∧ c ≤ 'F' then some (c.toNat - 'A'.toNat + 10)
  else none

/-- The number that digits denote in a base, if all of them are digits of it. -/
def numberIn? (base : Nat) (ds : List Char) : Option Nat :=
  ds.foldlM (fun n d => (hexDigit? d).bind fun x => if x < base then some (n * base + x) else none)
    0

/-- The number that hexadecimal digits denote. -/
def hexValue? (ds : List Char) : Option Nat := numberIn? 16 ds

/-- The least number that has more than 64 bits. -/
def wordBound : Nat := 0x10000000000000000

/-- The least number that is no integer of 64 bits with a sign. -/
def integerBound : Nat := 0x8000000000000000

/-- The character with a code point, if there is one. -/
def charOfCodePoint? (n : Nat) : Option Char :=
  if n.isValidChar then some (Char.ofNat n) else none

end SchemaSdk.Text
