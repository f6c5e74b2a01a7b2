import GoAssist.Uri.Domain
import GoAssist.Uri.Percent

/-!
# Hosts

A host is named by a domain or by a number. A number of 32 bits is written as up to four parts, any of
them decimal, octal or hexadecimal; one of 128 bits is written in brackets, as eight pieces of which
a row of zeros may be left out. A domain whose last label looks like a number has to be one. Where the
scheme of an address does not say what hosts are, the host is kept as it is written.
-/

namespace GoAssist.Uri

/-! ## Numbers of 32 bits -/

/-- The value of digits to a base, if all of them are digits to it. -/
def digitsValue? (base : Nat) (digits : List Char) : Option Nat :=
  if digits.all fun c => (hexDigit? c).any (· < base) then some (numberOf base digits) else none

/-- The value of one part, by its beginning. -/
def partValue? : List Char → Option Nat
  | [] => none
  | '0' :: 'x' :: digits => digitsValue? 16 digits
  | '0' :: 'X' :: digits => digitsValue? 16 digits
  | '0' :: digit :: digits => digitsValue? 8 (digit :: digits)
  | digits => digitsValue? 10 digits

/-- Whether the last label of a domain looks like a number; an empty one at the end does not
count. -/
def endsInNumber (domain : List Char) : Bool :=
  let isNumber (label : List Char) : Bool :=
    (!label.isEmpty && label.all Char.isDigit) || (partValue? label).isSome
  match (pieces '.' domain).reverse with
  | [] => false
  | [last] => isNumber last
  | last :: before :: _ => isNumber (if last.isEmpty then before else last)

/-- The number of the parts: all but the last stand for a byte each. -/
def partsValue? (parts : List Nat) : Option Nat :=
  match parts.reverse with
  | [] => none
  | last :: bytes =>
    if bytes.any (255 < ·) ∨ Nat.pow 256 (4 - bytes.length) ≤ last then none
    else some (bytes.reverse.foldl (fun n byte => n * 256 + byte) 0 * Nat.pow 256 (4 - bytes.length) + last)

/-- The number that a domain is. -/
def number32? (domain : List Char) : Option Nat :=
  let labels := pieces '.' domain
  let labels := if labels.getLast? = some [] then labels.dropLast else labels
  if 4 < labels.length then none else (labels.mapM partValue?).bind partsValue?

/-- A number as four decimal parts. -/
def number32Text (n : Nat) : List Char :=
  ['.'].intercalate ([n / 16777216, n / 65536, n / 256, n].map fun part =>
    (toString (part % 256)).toList)

/-! ## Numbers of 128 bits -/

/-- The pieces of a number in the middle of reading: those read, and where zeros are left out. -/
structure PieceReading where
  /-- The pieces read, in order. -/
  pieces : List Nat
  /-- How many of them come before the zeros that are left out. -/
  gap : Option Nat

/-- The four bytes that end a number, as two pieces. -/
def lastPieces? (text : List Char) : Option (List Nat) := do
  let bytes ← (pieces '.' text).mapM fun digits =>
    if digits.isEmpty || !digits.all Char.isDigit || (digits.head? == some '0' && digits.length ≠ 1)
      || 255 < numberOf 10 digits then none
    else some (numberOf 10 digits)
  match bytes with
  | [a, b, c, d] => some [a * 256 + b, c * 256 + d]
  | _ => none

/-- Reads the pieces between colons. Two colons in a row leave zeros out. -/
def PieceReading.read (reading : PieceReading) : List (List Char) → Option PieceReading
  | [] => some reading
  | [last] =>
    if last.contains '.' then do
      let ends ← lastPieces? last
      return { reading with pieces := reading.pieces ++ ends }
    else if last.isEmpty then
      if reading.gap = some reading.pieces.length then some reading else none
    else if last.length ≤ 4 then do
      return { reading with pieces := reading.pieces ++ [← digitsValue? 16 last] }
    else none
  | piece :: rest =>
    if piece.isEmpty then
      if reading.gap.isSome then none
      else PieceReading.read { reading with gap := some reading.pieces.length } rest
    else if piece.length ≤ 4 then
      match digitsValue? 16 piece with
      | some value => PieceReading.read { reading with pieces := reading.pieces ++ [value] } rest
      | none => none
    else none

/-- The eight pieces of a number. -/
def number128? (text : List Char) : Option (List Nat) := do
  let parts ← match pieces ':' text with
    | [] :: [] :: rest => some ([] :: rest)
    | [] :: _ => none
    | parts => some parts
  let reading ← PieceReading.read ⟨[], none⟩ parts
  let count := reading.pieces.length
  match reading.gap with
  | none => if count = 8 then some reading.pieces else none
  | some before =>
    if count < 8 then
      some (reading.pieces.take before ++ List.replicate (8 - count) 0 ++ reading.pieces.drop before)
    else none

/-- The first of the longest rows of zeros, as its place and length; `place` is that of the list. -/
def longestZeros (place : Nat) : List Nat → Nat × Nat
  | [] => (place, 0)
  | piece :: rest =>
    let row := ((piece :: rest).takeWhile (· == 0)).length
    let later := longestZeros (place + 1) rest
    if later.2 ≤ row then (place, row) else later

/-- A number in eight pieces, with the longest row of zeros left out. -/
def number128Text (parts : List Nat) : List Char :=
  let write (parts : List Nat) : List Char := [':'].intercalate (parts.map hexDigits)
  let (place, row) := longestZeros 0 parts
  if row < 2 then write parts
  else write (parts.take place) ++ [':', ':'] ++ write (parts.drop (place + row))

/-! ## Hosts -/

/-- A host between brackets. -/
def bracketedHost? (text : List Char) : Option (List Char) :=
  if text.getLast? = some ']' then
    (number128? text.dropLast).map fun parts => '[' :: number128Text parts ++ [']']
  else none

/-- The host of an address whose scheme says what hosts are. -/
def specialHost? (text : List Char) : Option (List Char) :=
  match text with
  | '[' :: rest => bracketedHost? rest
  | _ => do
    let decoded ← String.fromUTF8? ⟨(percentDecode text).toArray⟩
    let domain ← domain? decoded.toList
    if domain.isEmpty then none
    else if endsInNumber domain then (number32? domain).map number32Text
    else some domain

/-- The characters that no host may have, whatever its scheme. -/
def isBarred (c : Char) : Bool :=
  c == '\x00' || c == '\t' || c == '\n' || c == '\r' || " #/:<>?@[\\]^|".toList.contains c

/-- The host of an address of any other scheme. -/
def opaqueHost? (text : List Char) : Option (List Char) :=
  match text with
  | '[' :: rest => bracketedHost? rest
  | _ => if text.any isBarred then none else some (percentEncode isPrintable text)

end GoAssist.Uri
