/-!
# Character classes of patterns

A class stands between brackets and holds characters, ranges, named classes, escapes and other
classes. Here a class is only read past: the functions give what follows it, or nothing if it is
not well formed. Names and escapes stand for ASCII characters; a flag says whether the pattern is
about all of Unicode, in which case the classes that need tables are refused.
-/

namespace GoAssist.Pattern

/-- How a part of a pattern is read. -/
structure Flags where
  /-- Whether upper and lower case are the same. -/
  ignoresCase : Bool
  /-- Whether the pattern is about all of Unicode and not about bytes. -/
  isUnicode : Bool
  /-- Whether blanks and comments are left out. -/
  skipsBlanks : Bool
  deriving DecidableEq, Repr

/-- The flags that a pattern begins with. -/
def Flags.initial : Flags := ⟨false, true, false⟩

/-- Whether a character may stand for itself. Without regard to case only ASCII is known, and a
pattern about bytes holds ASCII only. -/
def Flags.admits (flags : Flags) (c : Char) : Bool :=
  if flags.isUnicode then !flags.ignoresCase else c.toNat < 0x80

/-- What an escape stands for. -/
inductive Escape where
  | char (c : Char)
  /-- A class by a letter; `negated` classes hold what is left out. -/
  | letterClass (negated : Bool)
  /-- A place between characters. -/
  | boundary
  /-- The beginning or the end of the text. -/
  | anchor
  deriving DecidableEq, Repr

/-- The value of digits to a base of at most 16, if there are so many of them. -/
def hexValue? (count : Nat) (digits : List Char) : Option Nat :=
  let value? (c : Char) : Option Nat :=
    if c.isDigit then some (c.toNat - '0'.toNat)
    else if 'a' ≤ c ∧ c ≤ 'f' then some (c.toNat - 'a'.toNat + 10)
    else if 'A' ≤ c ∧ c ≤ 'F' then some (c.toNat - 'A'.toNat + 10)
    else none
  if digits.length < count then none
  else (digits.take count).foldlM (fun total c => (value? c).map (total * 16 + ·)) 0

/-- The character of a hexadecimal escape of so many digits, and what follows it. -/
def hexEscape? (count : Nat) (text : List Char) : Option (Escape × List Char) := do
  let code ← hexValue? count text
  if code.isValidChar then some (.char (Char.ofNat code), text.drop count) else none

/-- Reads an escape, whose backslash is read. -/
def escape? : List Char → Option (Escape × List Char)
  | [] => none
  | c :: rest =>
    match c with
    | 'x' => hexEscape? 2 rest
    | 'u' => hexEscape? 4 rest
    | 'U' => hexEscape? 8 rest
    | 'd' => some (.letterClass false, rest)
    | 's' => some (.letterClass false, rest)
    | 'w' => some (.letterClass false, rest)
    | 'D' => some (.letterClass true, rest)
    | 'S' => some (.letterClass true, rest)
    | 'W' => some (.letterClass true, rest)
    | 'a' => some (.char '\x07', rest)
    | 'f' => some (.char '\x0c', rest)
    | 't' => some (.char '\t', rest)
    | 'n' => some (.char '\n', rest)
    | 'r' => some (.char '\r', rest)
    | 'v' => some (.char '\x0b', rest)
    | 'A' => some (.anchor, rest)
    | 'z' => some (.anchor, rest)
    | 'b' => some (.boundary, rest)
    | 'B' => some (.boundary, rest)
    | '<' => some (.boundary, rest)
    | '>' => some (.boundary, rest)
    | _ => if c.isAlphanum || 0x80 ≤ c.toNat then none else some (.char c, rest)

/-- Leaves out blanks, and comments up to the end of their line, if the flags say so. -/
def skipBlanks (flags : Flags) (text : List Char) : List Char :=
  if flags.skipsBlanks then skip false text else text
where
  /-- Leaves out blanks and comments; `comment` says whether one has begun. -/
  skip (comment : Bool) : List Char → List Char
    | [] => []
    | c :: rest =>
      if comment then skip (c != '\n') rest
      else if c.isWhitespace then skip false rest
      else if c = '#' then skip true rest
      else c :: rest

/-- The names of classes. -/
def classNames : List String :=
  ["alnum", "alpha", "ascii", "blank", "cntrl", "digit", "graph", "lower", "print", "punct",
   "space", "upper", "word", "xdigit"]

/-- What follows a class that is written as a name between colons, whose bracket is read. -/
def afterNamedClass? (text : List Char) : Option (List Char) :=
  match text with
  | ':' :: rest =>
    let rest := if rest.head? = some '^' then rest.drop 1 else rest
    let name := rest.takeWhile (· != ':')
    match rest.drop name.length with
    | ':' :: ']' :: after => if classNames.contains (String.ofList name) then some after else none
    | _ => none
  | _ => none

/-- Reads one character or escape of a class. -/
def classItem? (flags : Flags) : List Char → Option (Option Char × List Char)
  | [] => none
  | '\\' :: rest =>
    match escape? rest with
    | some (.char c, rest) => if flags.admits c then some (some c, rest) else none
    | some (.letterClass negated, rest) =>
      if flags.isUnicode || negated then none else some (none, rest)
    | _ => none
  | c :: rest => if flags.admits c then some (some c, rest) else none

/-- Reads a character, an escape or a range of a class, and gives what follows it. -/
def afterRange? (flags : Flags) (text : List Char) : Option (List Char) := do
  let (first, rest) ← classItem? flags text
  match skipBlanks flags rest with
  | [] => none
  | '-' :: rest =>
    match skipBlanks flags rest with
    | [] => none
    | ']' :: _ => some ('-' :: rest)
    | '-' :: _ => some ('-' :: rest)
    | rest =>
      let (last, rest) ← classItem? flags rest
      match first, last with
      | some first, some last => if first ≤ last then some rest else none
      | _, _ => none
  | rest => some rest

/-- What follows the opening bracket of a class and the characters that stand for themselves only
there. -/
def afterOpening (flags : Flags) (text : List Char) : List Char :=
  let text := skipBlanks flags text
  let text := if text.head? = some '^' then skipBlanks flags (text.drop 1) else text
  let rest := text.dropWhile (· == '-')
  if rest.length = text.length ∧ rest.head? = some ']' then rest.drop 1 else rest

/-- Reads the rest of a class inside `depth + 1` brackets and gives what follows the last of them.
Each step reads a character, so `fuel` need not exceed the length of the text. -/
def afterClassItems? (flags : Flags) : (fuel depth : Nat) → List Char → Option (List Char)
  | 0, _, _ => none
  | fuel + 1, depth, text =>
    match skipBlanks flags text with
    | [] => none
    | '[' :: rest =>
      match afterNamedClass? rest with
      | some rest => afterClassItems? flags fuel depth rest
      | none => afterClassItems? flags fuel (depth + 1) (afterOpening flags rest)
    | ']' :: rest =>
      match depth with
      | 0 => some rest
      | depth + 1 => afterClassItems? flags fuel depth rest
    | '&' :: '&' :: rest => afterClassItems? flags fuel depth rest
    | '-' :: '-' :: rest => afterClassItems? flags fuel depth rest
    | '~' :: '~' :: rest => afterClassItems? flags fuel depth rest
    | text =>
      match afterRange? flags text with
      | some rest => afterClassItems? flags fuel depth rest
      | none => none

/-- What follows a class, whose bracket is read. A pattern about bytes has no class of what is left
out. -/
def afterClass? (flags : Flags) (text : List Char) : Option (List Char) :=
  if !flags.isUnicode && (skipBlanks flags text).head? = some '^' then none
  else if flags.isUnicode && flags.ignoresCase then none
  else afterClassItems? flags text.length 0 (afterOpening flags text)

end GoAssist.Pattern
