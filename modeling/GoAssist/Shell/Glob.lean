import GoAssist.Shell.Syntax

/-!
# Patterns of words

A pattern is a text in which unquoted characters may stand for others: `?` for any character, `*` for
any text, and brackets for one of some characters. Characters that are quoted, and brackets that are
not closed, stand for themselves. A pattern of quoted characters matches one text only
(`accepts_items_quoted`).
-/

namespace GoAssist.Shell

/-- A character of a word, and whether it is quoted. -/
structure Mark where
  char : Char
  quoted : Bool
  deriving DecidableEq, Repr

namespace Glob

/-- Some of the characters that brackets stand for. -/
inductive Member where
  | range (first last : Char)
  | named (holds : Char → Bool)

/-- One step of a pattern. -/
inductive Item where
  | char (c : Char)
  | anyChar
  | anyText
  | oneOf (negated : Bool) (members : List Member)

/-- Whether a character prints as a sign. -/
def isSign (c : Char) : Bool :=
  '!' ≤ c && c ≤ '~' && !c.isAlphanum

/-- The sets of characters that have a name in brackets. -/
def classes : List (String × (Char → Bool)) :=
  [("alnum", Char.isAlphanum), ("alpha", Char.isAlpha), ("blank", fun c => c == ' ' || c == '\t'),
   ("cntrl", fun c => c.toNat < 32 || c.toNat == 127), ("digit", Char.isDigit),
   ("graph", fun c => '!' ≤ c && c ≤ '~'), ("lower", Char.isLower),
   ("print", fun c => ' ' ≤ c && c ≤ '~'), ("punct", isSign),
   ("space", fun c => c == ' ' || (9 ≤ c.toNat && c.toNat ≤ 13)), ("upper", Char.isUpper),
   ("xdigit", fun c => c.isDigit || ('a' ≤ c && c ≤ 'f') || ('A' ≤ c && c ≤ 'F'))]

/-- The set that is named after an open bracket, and how many characters its name takes. -/
def class? (marks : List Mark) : Option ((Char → Bool) × Nat) :=
  classes.findSome? fun (name, holds) =>
    let written := (":" ++ name ++ ":]").toList
    if (marks.take written.length).map Mark.char = written then some (holds, written.length)
    else none

/-- Reads what stands between brackets; none if they are not closed. The first character may be a
closing bracket. -/
def members (isFirst : Bool) : (fuel : Nat) → List Mark → Option (List Member × List Mark)
  | 0, _ => none
  | _, [] => none
  | fuel + 1, mark :: rest =>
    if mark = ⟨']', false⟩ ∧ !isFirst then some ([], rest)
    else
      match if mark = ⟨'[', false⟩ then class? rest else none with
      | some (holds, length) =>
        (members false fuel (rest.drop length)).map fun (others, rest) =>
          (.named holds :: others, rest)
      | none =>
        let (start, rest) : Char × List Mark :=
          match mark, rest with
          | ⟨'\\', false⟩, next :: rest => (next.char, rest)
          | _, _ => (mark.char, rest)
        match rest with
        | ⟨'-', false⟩ :: last :: more =>
          if last = ⟨']', false⟩ then
            (members false fuel rest).map fun (others, rest) =>
              (.range start start :: others, rest)
          else
            (members false fuel more).map fun (others, rest) =>
              (.range start last.char :: others, rest)
        | _ =>
          (members false fuel rest).map fun (others, rest) => (.range start start :: others, rest)

/-- The steps of a pattern; the fuel is its length. -/
def itemsWithin : (fuel : Nat) → List Mark → List Item
  | 0, _ => []
  | _, [] => []
  | fuel + 1, mark :: rest =>
    if mark.quoted then .char mark.char :: itemsWithin fuel rest
    else
      match mark.char, rest with
      | '?', _ => .anyChar :: itemsWithin fuel rest
      | '*', _ => .anyText :: itemsWithin fuel rest
      | '\\', next :: rest => .char next.char :: itemsWithin fuel rest
      | '[', _ =>
        let (negated, inner) : Bool × List Mark :=
          match rest with
          | ⟨'!', false⟩ :: inner => (true, inner)
          | _ => (false, rest)
        match members true (inner.length + 1) inner with
        | some (found, after) => .oneOf negated found :: itemsWithin fuel after
        | none => .char '[' :: itemsWithin fuel rest
      | c, _ => .char c :: itemsWithin fuel rest

/-- The steps of a pattern. -/
def items (marks : List Mark) : List Item :=
  itemsWithin marks.length marks

/-- Whether a character is one of those that brackets stand for. -/
def Member.holds (c : Char) : Member → Bool
  | .range first last => first ≤ c && c ≤ last
  | .named test => test c

/-- Whether some end of a text passes a test. -/
def anyEnd (test : Text → Bool) : Text → Bool
  | [] => test []
  | c :: rest => test (c :: rest) || anyEnd test rest

/-- Whether a pattern matches a whole text. -/
def accepts : List Item → Text → Bool
  | [], text => text.isEmpty
  | .anyText :: more, text => anyEnd (accepts more) text
  | _ :: _, [] => false
  | .char d :: more, c :: rest => c == d && accepts more rest
  | .anyChar :: more, _ :: rest => accepts more rest
  | .oneOf negated found :: more, c :: rest =>
    (found.any (Member.holds c) != negated) && accepts more rest

/-- Whether a pattern stands for anything but itself. -/
def isMeta (marks : List Mark) : Bool :=
  marks.any fun mark => !mark.quoted && "*?[".toList.contains mark.char

/-! ## Cutting texts -/

/-- What stands between the members of a list in a text. -/
def memberEnd : Char := '\x00'

/-- The first member of a list that is written as a text. -/
def firstMember (text : Text) : Text :=
  text.takeWhile (· != memberEnd)

/-- How many characters may be cut off at one end of a text or left there, in the order in which they
are tried. Those that are tried upwards stay in the first member of a list. -/
def sizes (upwards : Bool) (text : Text) : List Nat :=
  if upwards then List.range ((firstMember text).length + 1)
  else (List.range (text.length + 1)).reverse

/-- A text without the shortest or longest beginning that matches a pattern. A pattern does not look
beyond the end of a member. -/
def dropFirst (longest : Bool) (pattern : List Item) (text : Text) : Text :=
  match (sizes (!longest) text).find? fun size =>
      accepts pattern (firstMember (text.take size)) with
  | some size => text.drop size
  | none => text

/-- A text without the shortest or longest end that matches a pattern. A pattern does not look beyond
the end of a member. -/
def dropLast (longest : Bool) (pattern : List Item) (text : Text) : Text :=
  match (sizes longest text).find? fun size =>
      accepts pattern (firstMember (text.drop size)) with
  | some size => text.take size
  | none => text

/-! ## Quoted patterns -/

/-- A text in which every character is quoted. -/
def quoted (text : Text) : List Mark :=
  text.map fun c => ⟨c, true⟩

theorem items_quoted (text : Text) : items (quoted text) = text.map .char := by
  unfold items
  suffices h : ∀ fuel, text.length ≤ fuel →
      itemsWithin fuel (quoted text) = text.map .char by
    exact h _ (by simp [quoted])
  induction text with
  | nil => intro fuel _; cases fuel <;> rfl
  | cons c rest ih =>
    intro fuel hfuel
    cases fuel with
    | zero => simp at hfuel
    | succ fuel =>
      change Item.char c :: itemsWithin fuel (quoted rest) = _
      rw [ih fuel (by simpa using hfuel)]
      rfl

/-- A quoted pattern matches itself and nothing else. -/
theorem accepts_items_quoted {pattern text : Text} :
    accepts (items (quoted pattern)) text = true ↔ text = pattern := by
  rw [items_quoted]
  induction pattern generalizing text with
  | nil => simp [accepts]
  | cons d rest ih =>
    cases text with
    | nil => simp [accepts]
    | cons c text => simp [accepts, ih]

end Glob

end GoAssist.Shell
