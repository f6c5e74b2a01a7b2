import GoAssist.Unicode.Composite
import Std.Data.HashMap

/-!
# Composed text

A character with marks can be written in parts or as one composite. `composed` gives the one form
that all spellings have in common: everything is taken apart, the marks are put in order, and what can
be put together is put together again. Characters that only ever stand for others are left as they
are. `sortMarks_length` says that putting marks in order loses none.
-/

namespace GoAssist.Unicode

/-- The parts of each composite. -/
def composites : List (Nat × Nat × Nat) :=
  (words compositeRows).map fun word =>
    let (whole, parts) := splitAt '=' word
    let (first, second) := splitAt '+' parts
    (numberOf 16 whole, numberOf 16 first, numberOf 16 second)

/-- The parts of the composites by their codes. -/
def compositeParts : Std.HashMap Nat (Nat × Nat) :=
  .ofList (composites.map fun (whole, first, second) => (whole, (first, second)))

/-- The composites by the codes of their parts. -/
def compositeOf : Std.HashMap (Nat × Nat) Nat :=
  .ofList (composites.map fun (whole, first, second) => ((first, second), whole))

/-- The classes of marks by their codes. -/
def combiningClasses : Std.HashMap Nat Nat :=
  .ofList ((words combiningClassRows).flatMap fun word =>
    let (range, number) := splitAt ':' word
    let (first, last) := rangeOf range
    (List.range (last + 1 - first)).map fun offset => (first + offset, numberOf 10 number))

/-- The class of a character: zero unless it is a mark that may change places with others. -/
def combiningClass (c : Char) : Nat :=
  combiningClasses[c.toNat]?.getD 0

/-! ## Korean syllables -/

/-- The first syllable, and the first letters of each place in a syllable. -/
def syllableBase : Nat := 0xAC00

/-- The first leading consonant. -/
def leadBase : Nat := 0x1100

/-- The first vowel. -/
def vowelBase : Nat := 0x1161

/-- The code before the first trailing consonant. -/
def trailBase : Nat := 0x11A7

/-- The letters of a syllable. -/
def syllableParts? (code : Nat) : Option (List Nat) :=
  if syllableBase ≤ code ∧ code < syllableBase + 11172 then
    let index := code - syllableBase
    let letters := [leadBase + index / 588, vowelBase + index % 588 / 28]
    some (if index % 28 = 0 then letters else letters ++ [trailBase + index % 28])
  else none

/-- The syllable of two letters, or of a syllable without a trailing consonant and one. -/
def syllableOf? (first second : Nat) : Option Nat :=
  if leadBase ≤ first ∧ first < leadBase + 19 ∧ vowelBase ≤ second ∧ second < vowelBase + 21 then
    some (syllableBase + (first - leadBase) * 588 + (second - vowelBase) * 28)
  else if syllableBase ≤ first ∧ first < syllableBase + 11172 ∧ (first - syllableBase) % 28 = 0
      ∧ trailBase < second ∧ second < trailBase + 28 then
    some (first + (second - trailBase))
  else none

/-! ## Taking apart -/

/-- The parts of a character, taken apart at most `fuel` times. -/
def partsWithin : (fuel : Nat) → Nat → List Nat
  | 0, code => [code]
  | fuel + 1, code =>
    match compositeParts[code]? with
    | some (first, second) => partsWithin fuel first ++ [second]
    | none => (syllableParts? code).getD [code]

/-- How often a character can be taken apart. -/
def maxParts : Nat := 4

/-- The characters of a text, taken apart. -/
def decomposed (text : List Char) : List Char :=
  text.flatMap fun c => (partsWithin maxParts c.toNat).map Char.ofNat

/-! ## Order of marks -/

/-- Puts a mark before the first one of a higher class. -/
def insertMark (mark : Char) : List Char → List Char
  | [] => [mark]
  | other :: others =>
    if combiningClass mark < combiningClass other then mark :: other :: others
    else other :: insertMark mark others

/-- Puts the marks after each character in order; `marks` are those since the last one, in order. -/
def sortMarks (marks : List Char) : List Char → List Char
  | [] => marks
  | c :: rest =>
    if combiningClass c = 0 then marks ++ c :: sortMarks [] rest
    else sortMarks (insertMark c marks) rest

theorem length_insertMark (mark : Char) :
    ∀ marks : List Char, (insertMark mark marks).length = marks.length + 1
  | [] => rfl
  | other :: others => by
    rw [insertMark]
    split
    · rfl
    · rw [List.length_cons, length_insertMark mark others, List.length_cons]

/-- Putting marks in order loses none. -/
theorem sortMarks_length : ∀ (marks text : List Char),
    (sortMarks marks text).length = marks.length + text.length
  | _, [] => rfl
  | marks, c :: rest => by
    rw [sortMarks]
    split
    · rw [List.length_append, List.length_cons, sortMarks_length [] rest]
      simp
    · rw [sortMarks_length (insertMark c marks) rest, length_insertMark, List.length_cons]
      omega

/-! ## Putting together -/

/-- The composite of two characters, if there is one. -/
def composite? (first second : Char) : Option Char :=
  ((syllableOf? first.toNat second.toNat).or compositeOf[(first.toNat, second.toNat)]?).map Char.ofNat

/-- Puts characters together from one on that marks may be put on; `marks` are those since then that
were not, the last one first. A mark is put on it unless one of its class or a higher one comes
between. -/
def composeFrom (base : Char) (marks : List Char) : List Char → List Char
  | [] => base :: marks.reverse
  | c :: rest =>
    let isBlocked :=
      match marks with
      | [] => false
      | last :: _ => decide (combiningClass c ≤ combiningClass last)
    match if isBlocked then none else composite? base c with
    | some whole => composeFrom whole marks rest
    | none =>
      if combiningClass c = 0 then base :: marks.reverse ++ composeFrom c [] rest
      else composeFrom base (c :: marks) rest

/-- Puts characters together. Marks that stand before every other character are left alone. -/
def compose : List Char → List Char
  | [] => []
  | c :: rest => if combiningClass c = 0 then composeFrom c [] rest else c :: compose rest

/-- The composed form of a text. -/
def composed (text : List Char) : List Char :=
  compose (sortMarks [] (decomposed text))

end GoAssist.Unicode
