import GoAssist.Shell.Syntax
import GoAssist.Text.Digit

/-!
# Numbers in words

A number is written with digits after blanks and a sign. Where any base may be used, `0x` begins a
number in base sixteen and `0` one in base eight. Numbers have 64 bits, and one that does not fit is
none.
-/

namespace GoAssist.Shell

namespace Number

/-- Whether a character may stand around a number. -/
def isSpace (c : Char) : Bool :=
  c == ' ' || (9 ≤ c.toNat && c.toNat ≤ 13)

/-- The digits of a base at the beginning of a text, and what follows them. -/
def digits (base : Nat) : Text → List Nat × Text
  | [] => ([], [])
  | c :: rest =>
    match hexDigit? c with
    | some digit =>
      if digit < base then
        let (others, after) := digits base rest
        (digit :: others, after)
      else ([], c :: rest)
    | none => ([], c :: rest)

/-- The number that digits spell. -/
def ofDigits (base : Nat) (found : List Nat) : Nat :=
  found.foldl (fun total digit => total * base + digit) 0

/-- Reads a number without a sign, unless there is none. -/
def unsigned? (anyBase : Bool) (text : Text) : Option (Nat × Text) :=
  let hex : Option (Nat × Text) :=
    match anyBase, text with
    | true, '0' :: x :: rest =>
      let (found, after) := digits 16 rest
      if (x == 'x' || x == 'X') && !found.isEmpty then some (ofDigits 16 found, after) else none
    | _, _ => none
  match hex with
  | some found => some found
  | none =>
    let base := if anyBase && text.head? == some '0' then 8 else 10
    let (found, after) := digits base text
    if found.isEmpty then none else some (ofDigits base found, after)

/-- Reads a number after blanks and a sign, unless there is none. -/
def signed? (anyBase : Bool) (text : Text) : Option (Int × Text) :=
  match text.dropWhile isSpace with
  | '-' :: rest => (unsigned? anyBase rest).map fun (n, after) => (-(n : Int), after)
  | '+' :: rest => (unsigned? anyBase rest).map fun (n, after) => ((n : Int), after)
  | rest => (unsigned? anyBase rest).map fun (n, after) => ((n : Int), after)

/-- The largest number. -/
def largest : Int := 9223372036854775807

/-- The smallest number. -/
def smallest : Int := -9223372036854775808

/-- A number, if it fits. -/
def ofInt? (n : Int) : Option Int64 :=
  if smallest ≤ n ∧ n ≤ largest then some (Int64.ofInt n) else none

/-- The nearest number that fits. -/
def nearest (n : Int) : Int64 :=
  Int64.ofInt (max smallest (min n largest))

/-- The number that a whole text spells. A text of nothing spells zero where any base may be used. -/
def ofText? (anyBase : Bool) (text : Text) : Option Int64 :=
  match signed? anyBase text with
  | some (n, after) => if after.all isSpace then ofInt? n else none
  | none => if anyBase && text.all isSpace then some 0 else none

/-- The largest count. -/
def largestCount : Nat := 2147483647

/-- The count that a whole text spells in base ten. -/
def natural? (text : Text) : Option Nat := do
  let n ← ofText? false text
  if n.toInt < 0 ∨ largestCount < n.toInt then none else some n.toInt.toNat

/-- A number as it is printed. -/
def toText (n : Int64) : Text :=
  (toString n.toInt).toList

end Number

end GoAssist.Shell
