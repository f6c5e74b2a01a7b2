/-!
# Digits

Digits up to sixteen, in both cases. `digit?_hexDigit` says that a written digit is read back.
-/

namespace GoAssist

/-- The value of a hexadecimal digit. -/
def hexDigit? (c : Char) : Option Nat :=
  if c.isDigit then some (c.toNat - '0'.toNat)
  else if 'a' ≤ c ∧ c ≤ 'f' then some (c.toNat - 'a'.toNat + 10)
  else if 'A' ≤ c ∧ c ≤ 'F' then some (c.toNat - 'A'.toNat + 10)
  else none

/-- A digit in small letters. -/
def hexDigit (n : Nat) : Char :=
  if n < 10 then Char.ofNat ('0'.toNat + n) else Char.ofNat ('a'.toNat + (n - 10))

/-- The value of digits to a base; signs that are no digits count as zero. -/
def numberOf (base : Nat) (digits : List Char) : Nat :=
  digits.foldl (fun n c => n * base + (hexDigit? c).getD 0) 0

/-- A number in hexadecimal digits, the last one first, with at most `fuel` digits. -/
def hexDigitsFrom : (fuel : Nat) → Nat → List Char
  | 0, _ => []
  | fuel + 1, n => hexDigit (n % 16) :: if n < 16 then [] else hexDigitsFrom fuel (n / 16)

/-- A number in hexadecimal digits. -/
def hexDigits (n : Nat) : List Char :=
  (hexDigitsFrom (n + 1) n).reverse

/-- A written digit is read back. -/
theorem digit?_hexDigit {n : Nat} (h : n < 16) : hexDigit? (hexDigit n) = some n := by
  have hall : ∀ m ∈ List.range 16, hexDigit? (hexDigit m) = some m := by decide
  exact hall n (List.mem_range.mpr h)

end GoAssist
