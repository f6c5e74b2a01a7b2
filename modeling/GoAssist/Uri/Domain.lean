import GoAssist.Unicode.Composition
import GoAssist.Unicode.Direction
import GoAssist.Unicode.Joining
import GoAssist.Unicode.Mark
import GoAssist.Uri.DomainTable
import GoAssist.Uri.Punycode

/-!
# Domain names

A domain name is a row of labels between dots. Before it is looked up its characters are replaced by
those they stand for, and labels of other scripts are spelt in ASCII. A label may be spelt so already,
but then it has to be the spelling of a label in its final form. Letters that run from right to left
put a rule on every label of the name. A label of ASCII characters is its own spelling.
-/

namespace GoAssist.Uri

open Unicode

/-! ## Characters -/

/-- The characters that stand for one other. -/
def singleTable : Std.HashMap Nat (List Char) :=
  .ofList ((words singleRows).flatMap fun word =>
    let (source, target) := splitAt '>' word
    let (range, step) := splitAt '/' source
    let (first, last) := rangeOf range
    let stride := if step.isEmpty then 1 else numberOf 10 step
    (List.range ((last - first) / stride + 1)).map fun n =>
      (first + n * stride, [Char.ofNat (numberOf 16 target + n * stride)]))

/-- The characters that stand for several others. -/
def severalTable : Std.HashMap Nat (List Char) :=
  .ofList ((words severalRows).map fun word =>
    let (source, target) := splitAt '>' word
    (numberOf 16 source, (pieces '.' target).map fun code => Char.ofNat (numberOf 16 code)))

/-- What becomes of a character of a name, if a name may have it. -/
def mapped? (c : Char) : Option (List Char) :=
  if disallowedCodes.contains c.toNat then none
  else if ignoredCodes.contains c.toNat then some []
  else some ((singleTable[c.toNat]?.or severalTable[c.toNat]?).getD [c])

/-- Whether a character stands in names as it is. -/
def isFinal (c : Char) : Bool :=
  mapped? c == some [c]

/-- The ASCII characters that no host may have. -/
def isForbidden (c : Char) : Bool :=
  c ≤ ' ' || c == '\x7f' || "%#/:<>?@[\\]^|".toList.contains c

/-! ## Signs that join letters -/

/-- Whether the letters before and after a sign join; the letters before it come last one first. -/
def joinsAcross (before after : List Char) : Bool :=
  let isMember (sets : List CodeSet) (c : Char) : Bool := sets.any (·.contains c.toNat)
  let next (letters : List Char) : Option Char :=
    (letters.dropWhile (isMember [joinsThrough])).head?
  (next before).any (isMember [joinsLeft, joinsBoth])
    && (next after).any (isMember [joinsRight, joinsBoth])

/-- Whether the signs that join letters or keep them apart stand where they have a meaning; `before`
has the letters before the rest, the last one first. -/
def hasJoinersInPlace (before : List Char) : List Char → Bool
  | [] => true
  | c :: after =>
    let followsVirama := (before.head?).any fun last => viramas.contains last.toNat
    (if c = '\u200d' then followsVirama
      else if c = '\u200c' then followsVirama || joinsAcross before after
      else true)
      && hasJoinersInPlace (c :: before) after

/-! ## Labels -/

/-- Whether a label in its final form may stand in a name. -/
def isLabel (label : List Char) : Bool :=
  !label.head?.any isMark && label.all isFinal && hasJoinersInPlace [] label

/-- The beginning of a label that is spelt in ASCII. -/
def spelling : List Char := "xn--".toList

/-- Whether a character is an ASCII character. -/
def isAscii (c : Char) : Bool :=
  c.toNat < 0x80

/-- What a label says, if it is a label. -/
def labelText? (label : List Char) : Option (List Char) :=
  if label.any isForbidden then none
  else if spelling.isPrefixOf label then do
    let text ← Punycode.decode? (label.drop spelling.length)
    if !text.all isAscii && composed text == text && isLabel text then some text else none
  else if isLabel label then some label
  else none

/-- A label in ASCII. -/
def asciiLabel (text : List Char) : List Char :=
  if text.all isAscii then text else spelling ++ Punycode.encode text

/-! ## Directions -/

/-- Whether a direction is that of a letter that runs from right to left, or of its digits. -/
def isRightToLeft (direction : Direction) : Bool :=
  [.rightToLeft, .arabicLetter, .arabicNumber].contains direction

/-- Whether a label runs in one direction, as every label of a name with right-to-left letters has
to. -/
def runsOneWay (label : List Char) : Bool :=
  let directions := label.map direction
  let last? := (directions.reverse.dropWhile (· == .nonspacingMark)).head?
  let neutrals : List Direction :=
    [.europeanNumber, .europeanSeparator, .commonSeparator, .europeanTerminator, .otherNeutral,
      .boundaryNeutral, .nonspacingMark]
  match directions.head? with
  | none => true
  | some .leftToRight =>
    (directions.all fun d => d == .leftToRight || neutrals.contains d)
      && last?.any [.leftToRight, .europeanNumber].contains
  | some first =>
    [.rightToLeft, .arabicLetter].contains first
      && (directions.all fun d => isRightToLeft d || neutrals.contains d)
      && last?.any (fun d => isRightToLeft d || d == .europeanNumber)
      && !(directions.contains .europeanNumber && directions.contains .arabicNumber)

/-! ## Names -/

/-- A domain name as it is looked up, if it is one. -/
def domain? (name : List Char) : Option (List Char) := do
  let characters ← name.mapM mapped?
  let texts ← (pieces '.' (composed characters.flatten)).mapM labelText?
  let runsBack := texts.any fun text => text.any fun c => isRightToLeft (direction c)
  if runsBack && !texts.all runsOneWay then none
  else some (['.'].intercalate (texts.map asciiLabel))

end GoAssist.Uri
