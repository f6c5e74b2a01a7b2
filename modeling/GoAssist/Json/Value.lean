/-!
# JSON values

A value keeps the members of an object in order, repetitions included, and a number as it was
written. Strings may be of any type: `Json` has decoded strings, `RawJson` has strings as they stand
between their quotes, where an escape may name half a character.
-/

namespace GoAssist

/-- A JSON value with strings of type `σ`. -/
inductive JsonOf (σ : Type) where
  | null
  | bool (value : Bool)
  | number (literal : String)
  | string (value : σ)
  | array (items : List (JsonOf σ))
  | object (members : List (σ × JsonOf σ))
  deriving Repr, Inhabited, BEq

/-- One piece of a string as it is written. -/
inductive StringPiece where
  /-- A character, plain or by a short escape. -/
  | char (c : Char)
  /-- A UTF-16 unit in four hexadecimal digits. -/
  | unit (code : Nat)
  deriving DecidableEq, Repr, Inhabited

/-- A string as it is written, without its quotes. -/
abbrev RawString := List StringPiece

/-- A JSON value with decoded strings. -/
abbrev Json := JsonOf String

/-- A JSON value with strings as they are written. -/
abbrev RawJson := JsonOf RawString

namespace RawString

/-- The characters of a string, unless a unit is half a character without its other half. -/
def decodeChars : RawString → Option (List Char)
  | [] => some []
  | .char c :: rest => (decodeChars rest).map (c :: ·)
  | .unit high :: .unit low :: rest =>
    if 0xD800 ≤ high ∧ high < 0xDC00 then
      if 0xDC00 ≤ low ∧ low < 0xE000 then
        (decodeChars rest).map
          (Char.ofNat (0x10000 + (high - 0xD800) * 0x400 + (low - 0xDC00)) :: ·)
      else none
    else if 0xDC00 ≤ high ∧ high < 0xE000 then none
    else (decodeChars (.unit low :: rest)).map (Char.ofNat high :: ·)
  | .unit code :: rest =>
    if 0xD800 ≤ code ∧ code < 0xE000 then none
    else (decodeChars rest).map (Char.ofNat code :: ·)

/-- The decoded string, unless a unit is half a character without its other half. -/
def decode (raw : RawString) : Option String :=
  (decodeChars raw).map String.ofList

end RawString

namespace RawJson

mutual

/-- The value with every string decoded. -/
def decode : RawJson → Option Json
  | .null => some .null
  | .bool b => some (.bool b)
  | .number literal => some (.number literal)
  | .string raw => (RawString.decode raw).map .string
  | .array items => (decodeItems items).map .array
  | .object members => (decodeMembers members).map .object

/-- The items with every string decoded. -/
def decodeItems : List RawJson → Option (List Json)
  | [] => some []
  | item :: items => do
    let item ← decode item
    let items ← decodeItems items
    return item :: items

/-- The members with every string decoded. -/
def decodeMembers : List (RawString × RawJson) → Option (List (String × Json))
  | [] => some []
  | (key, value) :: members => do
    let key ← RawString.decode key
    let value ← decode value
    let members ← decodeMembers members
    return (key, value) :: members

end

end RawJson

namespace JsonOf

/-- A natural number as JSON. -/
def ofNat {σ : Type} (n : Nat) : JsonOf σ :=
  .number (toString n)

/-- A list of strings as JSON. -/
def ofStrings {σ : Type} (strings : List σ) : JsonOf σ :=
  .array (strings.map .string)

/-- The number of a literal that is written as an integer, within the 64-bit ranges. Minus zero and
any fraction or exponent make another kind of number. -/
def int? (literal : String) : Option Int :=
  match literal.toList with
  | '-' :: digits =>
    if digits.all Char.isDigit then
      let n := digits.foldl (fun n d => n * 10 + (d.toNat - '0'.toNat)) 0
      if n = 0 ∨ 9223372036854775808 < n then none else some (-(n : Int))
    else none
  | digits =>
    if digits.all Char.isDigit then
      let n := digits.foldl (fun n d => n * 10 + (d.toNat - '0'.toNat)) 0
      if 18446744073709551616 ≤ n then none else some n
    else none

end JsonOf

namespace Json

/-- A number written as an integer, if the value is one. -/
def toInt? : Json → Option Int
  | .number literal => JsonOf.int? literal
  | _ => none

/-- A natural number below `bound`, if the value is one. -/
def toNatBelow? (bound : Nat) (json : Json) : Option Nat :=
  match toInt? json with
  | some (.ofNat n) => if n < bound then some n else none
  | _ => none

/-- The text of a string. -/
def toString? : Json → Option String
  | .string s => some s
  | _ => none

/-- The members of an object. -/
def toMembers? : Json → Option (List (String × Json))
  | .object members => some members
  | _ => none

/-- The last member of a name. -/
def memberNamed? (members : List (String × Json)) (name : String) : Option Json :=
  (members.reverse.find? fun member => member.1 == name).map Prod.snd

/-- The last member of a name, if the value is an object that has one. -/
def member? (json : Json) (name : String) : Option Json :=
  match json with
  | .object members => memberNamed? members name
  | _ => none

end Json

end GoAssist
