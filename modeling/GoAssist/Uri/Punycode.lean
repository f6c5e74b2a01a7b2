import GoAssist.Text.Digit

/-!
# Punycode

Names of any script written with the letters, digits and the hyphen of ASCII. The ASCII characters come
first; the others follow in the order of their codes, each as a number that tells how far it is from
the one before. `digitValue?_digitChar` says that a written digit is read back.
-/

namespace GoAssist.Uri.Punycode

/-! ## Digits -/

/-- The digit of a value below 36. -/
def digitChar (value : Nat) : Char :=
  if value < 26 then Char.ofNat ('a'.toNat + value) else Char.ofNat ('0'.toNat + (value - 26))

/-- The value of a digit, in both cases. -/
def digitValue? (c : Char) : Option Nat :=
  if 'a' ≤ c ∧ c ≤ 'z' then some (c.toNat - 'a'.toNat)
  else if 'A' ≤ c ∧ c ≤ 'Z' then some (c.toNat - 'A'.toNat)
  else if '0' ≤ c ∧ c ≤ '9' then some (c.toNat - '0'.toNat + 26)
  else none

/-- A written digit is read back. -/
theorem digitValue?_digitChar {value : Nat} (h : value < 36) :
    digitValue? (digitChar value) = some value := by
  have hall : ∀ n ∈ List.range 36, digitValue? (digitChar n) = some n := by decide
  exact hall value (List.mem_range.mpr h)

/-- The value below which a digit ends its number; `place` counts the digits in steps of 36. -/
def threshold (bias place : Nat) : Nat :=
  if place ≤ bias then 1 else if bias + 26 ≤ place then 26 else place - bias

theorem threshold_bounds (bias place : Nat) :
    1 ≤ threshold bias place ∧ threshold bias place ≤ 26 := by
  unfold threshold
  split
  · omega
  · split <;> omega

/-- How often a distance is divided before the next bias is taken from it, and what is left. -/
def settle (distance rounds : Nat) : Nat × Nat :=
  if 455 < distance then settle (distance / 35) (rounds + 36) else (distance, rounds)
termination_by distance
decreasing_by exact Nat.div_lt_self (by omega) (by omega)

/-- The bias for the number after one that tells a distance. -/
def adapt (distance count : Nat) (isFirst : Bool) : Nat :=
  let damped := if isFirst then distance / 700 else distance / 2
  let (left, rounds) := settle (damped + damped / count) 0
  rounds + 36 * left / (left + 38)

/-! ## Reading -/

/-- A name in the middle of reading. -/
structure Reading where
  /-- What has been read, in order. -/
  text : List Char
  /-- The code of the character read last. -/
  code : Nat
  /-- Where the next character goes, with the part of its number that was read. -/
  place : Nat
  /-- What `place` was before its number. -/
  start : Nat
  /-- What the next digit counts. -/
  weight : Nat
  /-- Which digit of a number is next, in steps of 36. -/
  digit : Nat
  /-- What decides where numbers end. -/
  bias : Nat

/-- Reads one digit. -/
def Reading.step (reading : Reading) (c : Char) : Option Reading := do
  let value ← digitValue? c
  let place := reading.place + value * reading.weight
  let limit := threshold reading.bias reading.digit
  if limit ≤ value then
    return { reading with
      place := place, weight := reading.weight * (36 - limit), digit := reading.digit + 36 }
  else
    let count := reading.text.length + 1
    let code := reading.code + place / count
    if code < 0xD800 ∨ (0xDFFF < code ∧ code < 0x110000) then
      let next := place % count + 1
      return ⟨reading.text.insertIdx (place % count) (.ofNat code), code, next, next, 1, 36,
        adapt (place - reading.start) count (reading.start == 0)⟩
    else none

/-- What comes before and after the last hyphen; nothing comes before if there is none. -/
def splitLast (text : List Char) : List Char × List Char :=
  let last := (text.reverse.takeWhile (· != '-')).reverse
  (text.take (text.length - last.length - 1), last)

/-- The name that a text spells. -/
def decode? (text : List Char) : Option (List Char) := do
  let (basic, extended) := splitLast text
  if basic.any (fun c => 0x80 ≤ c.toNat) then none
  let reading ← extended.foldlM Reading.step ⟨basic, 0x80, 0, 0, 1, 36, 72⟩
  if reading.digit = 36 then some reading.text else none

/-! ## Writing -/

/-- The digits of a number. -/
def numberDigits (bias place number : Nat) : List Char :=
  let limit := threshold bias place
  if number < limit then [digitChar number]
  else
    digitChar (limit + (number - limit) % (36 - limit))
      :: numberDigits bias (place + 36) ((number - limit) / (36 - limit))
termination_by number
decreasing_by
  have h := threshold_bounds bias place
  exact Nat.lt_of_le_of_lt (Nat.div_le_self _ _) (by omega)

/-- A name in the middle of writing. -/
structure Writing where
  /-- What has been written, in order. -/
  text : List Char
  /-- How far the next character is from the one before. -/
  distance : Nat
  /-- What decides where numbers end. -/
  bias : Nat
  /-- How many characters were written. -/
  count : Nat

/-- Passes one character on the way to those of a code. -/
def Writing.step (basic code : Nat) (writing : Writing) (c : Char) : Writing :=
  if c.toNat < code then { writing with distance := writing.distance + 1 }
  else if c.toNat = code then
    ⟨writing.text ++ numberDigits writing.bias 36 writing.distance, 0,
      adapt writing.distance (writing.count + 1) (writing.count == basic), writing.count + 1⟩
  else writing

/-- Writes the characters of some codes, in order; `after` is the least code not yet passed. -/
def writeCodes (name : List Char) (basic : Nat) : List Nat → Nat → Writing → Writing
  | [], _, writing => writing
  | code :: codes, after, writing =>
    let approached :=
      { writing with distance := writing.distance + (code - after) * (writing.count + 1) }
    let passed := name.foldl (Writing.step basic code) approached
    writeCodes name basic codes (code + 1) { passed with distance := passed.distance + 1 }

/-- The text that spells a name. -/
def encode (name : List Char) : List Char :=
  let basic := name.filter fun c => c.toNat < 0x80
  let codes := ((name.filter fun c => 0x80 ≤ c.toNat).map Char.toNat).mergeSort.eraseDups
  let start := if basic.isEmpty then [] else basic ++ ['-']
  (writeCodes name basic.length codes 0x80 ⟨start, 0, 72, basic.length⟩).text

end GoAssist.Uri.Punycode
