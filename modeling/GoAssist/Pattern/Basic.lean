import GoAssist.Pattern.Class

/-!
# Patterns

Regular expressions as log filters use them. A pattern is only checked here: `isPattern` says
whether it is well formed and can be made into an automaton, for which the places between words have
to be about bytes and no class may need tables.
-/

namespace GoAssist.Pattern

/-- The letters of a group's flags. -/
def flagLetters : List Char := ['i', 'm', 's', 'U', 'u', 'R', 'x']

/-- The flags after one letter, which sets or clears a flag. -/
def Flags.put (flags : Flags) (letter : Char) (value : Bool) : Flags :=
  match letter with
  | 'i' => { flags with ignoresCase := value }
  | 'u' => { flags with isUnicode := value }
  | 'x' => { flags with skipsBlanks := value }
  | _ => flags

/-- Reads the flags of a group: the new flags, whether there are none, and what follows them. No
letter may stand twice, and a minus sign stands once before a letter. -/
def readFlags (flags : Flags) (seen : List Char) : List Char → Option (Flags × Bool × List Char)
  | [] => none
  | c :: rest =>
    if c = ':' ∨ c = ')' then
      if seen.head? = some '-' then none else some (flags, seen.isEmpty, c :: rest)
    else if seen.contains c then none
    else if c = '-' then readFlags flags (c :: seen) rest
    else if flagLetters.contains c then
      readFlags (flags.put c (!seen.contains '-')) (c :: seen) rest
    else none

/-- Reads the name of a group up to its closing bracket. -/
def groupName? (text : List Char) : Option (List Char × List Char) :=
  let isFirst (c : Char) : Bool := c.isAlpha || c == '_' || 0x80 ≤ c.toNat
  let isOther (c : Char) : Bool := isFirst c || c.isDigit || c == '.' || c == '[' || c == ']'
  let name := text.takeWhile (· != '>')
  match text.drop name.length, name with
  | '>' :: rest, first :: others =>
    if isFirst first && others.all isOther then some (name, rest) else none
  | _, _ => none

/-- A check in progress: the flags, those outside each open group, the names of groups, and whether
something stands before that may be repeated. -/
structure Check where
  /-- The flags in force. -/
  flags : Flags
  /-- The flags to return to at the end of each open group. -/
  outer : List Flags
  /-- The names of groups so far. -/
  names : List (List Char)
  /-- Whether a repetition may follow. -/
  repeatable : Bool

/-- The check after something that may be repeated. -/
def Check.item (check : Check) : Check :=
  { check with repeatable := true }

/-- The check inside a new group. -/
def Check.enter (check : Check) (flags : Flags) : Check :=
  { check with flags := flags, outer := check.flags :: check.outer, repeatable := false }

/-- Reads what follows the opening bracket of a group. -/
def openGroup? (check : Check) (text : List Char) : Option (Check × List Char) :=
  let named (rest : List Char) : Option (Check × List Char) := do
    let (name, rest) ← groupName? rest
    if check.names.contains name then none
    else some ({ check.enter check.flags with names := name :: check.names }, rest)
  match text with
  | '?' :: '=' :: _ => none
  | '?' :: '!' :: _ => none
  | '?' :: '<' :: '=' :: _ => none
  | '?' :: '<' :: '!' :: _ => none
  | '?' :: 'P' :: '<' :: rest => named rest
  | '?' :: '<' :: rest => named rest
  | '?' :: rest =>
    match readFlags check.flags [] rest with
    | some (flags, _, ':' :: rest) => some (check.enter flags, rest)
    | some (flags, empty, ')' :: rest) =>
      if empty then none else some ({ check with flags := flags, repeatable := false }, rest)
    | _ => none
  | rest => some (check.enter check.flags, rest)

/-- Reads what an escape stands for. -/
def afterEscape? (check : Check) (text : List Char) : Option (List Char) :=
  match escape? text with
  | some (.char c, rest) => if check.flags.admits c then some rest else none
  | some (.letterClass negated, rest) =>
    if check.flags.isUnicode || negated then none else some rest
  | some (.boundary, rest) => if check.flags.isUnicode then none else some rest
  | some (.anchor, rest) => some rest
  | none => none

/-- Whether the rest of a pattern is well formed. Each step reads a character, so `fuel` need not
exceed the length of the text by more than one. -/
def checks : (fuel : Nat) → Check → List Char → Bool
  | 0, _, _ => false
  | fuel + 1, check, text =>
    match skipBlanks check.flags text with
    | [] => check.outer.isEmpty
    | c :: rest =>
      match c with
      | '(' =>
        match openGroup? check rest with
        | some (check, rest) => checks fuel check rest
        | none => false
      | ')' =>
        match check.outer with
        | [] => false
        | flags :: outer =>
          checks fuel { check with flags := flags, outer := outer, repeatable := true } rest
      | '|' => checks fuel { check with repeatable := false } rest
      | '[' =>
        match afterClass? check.flags rest with
        | some rest => checks fuel check.item rest
        | none => false
      | '\\' =>
        match afterEscape? check rest with
        | some rest => checks fuel check.item rest
        | none => false
      | '.' => check.flags.isUnicode && checks fuel check.item rest
      | '^' => checks fuel check.item rest
      | '$' => checks fuel check.item rest
      | '\x7b' => false
      | '*' => check.repeatable && checks fuel check.item (afterLazy rest)
      | '+' => check.repeatable && checks fuel check.item (afterLazy rest)
      | '?' => check.repeatable && checks fuel check.item (afterLazy rest)
      | _ => check.flags.admits c && checks fuel check.item rest
where
  /-- What follows the question mark that makes a repetition short. -/
  afterLazy (text : List Char) : List Char :=
    if text.head? = some '?' then text.drop 1 else text

/-- Whether a text without braces is a pattern that can be made into an automaton; an opening brace
would begin a repetition count that is not closed. -/
def isPattern (text : List Char) : Bool :=
  checks (text.length + 1) ⟨.initial, [], [], false⟩ text

end GoAssist.Pattern
