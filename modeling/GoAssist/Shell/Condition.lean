import GoAssist.Shell.Number

/-!
# Conditions

A condition is made of words: questions about texts, numbers and files, joined by `-a`, `-o`, `!` and
parentheses. What a word means hangs on the words around it: an operator that has nothing to work on
is a text. Few words are read by rules of their own, and no words at all do not hold.
-/

namespace GoAssist.Shell.Condition

/-- What is known about the file that a path leads to. -/
structure Facts where
  isDirectory : Bool
  isDevice : Bool
  isExecutable : Bool
  isEmpty : Bool

/-- What a word may mean between others. -/
inductive Sign where
  /-- A question about the word after it. -/
  | unary (letter : Char)
  /-- A question about the words around it. -/
  | binary (name : String)
  | not
  | and
  | or
  | opening
  | closing
  deriving DecidableEq

/-- The questions about two words. -/
def binaryNames : List String :=
  ["=", "!=", "<", ">", "-eq", "-ne", "-lt", "-le", "-gt", "-ge", "-nt", "-ot", "-ef"]

/-- The letters of the questions about one word. -/
def unaryLetters : List Char := "rwxefdcbpugkstznhOGLS".toList

/-- The sign that a word is, if it is one. -/
def sign? (word : Text) : Option Sign :=
  let name := String.ofList word
  if binaryNames.contains name then some (.binary name)
  else
    match word with
    | ['!'] => some .not
    | ['-', 'a'] => some .and
    | ['-', 'o'] => some .or
    | ['('] => some .opening
    | [')'] => some .closing
    | ['-', letter] => if unaryLetters.contains letter then some (.unary letter) else none
    | _ => none

/-- Whether a word is a question about two words. -/
def isBinary (word : Text) : Bool :=
  match sign? word with
  | some (.binary _) => true
  | _ => false

/-- What the first of some words means. -/
inductive Reading where
  | finish
  | text
  | sign (sign : Sign)
  deriving DecidableEq

/-- Whether a question about one word is only a text, for the words after it. -/
def isAlone : List Text → Bool
  | [] => true
  | [_] => false
  | next :: _ => isBinary next

/-- What the first of some words means. -/
def readingOf : List Text → Reading
  | [] => .finish
  | word :: rest =>
    match sign? word with
    | some (.unary letter) => if isAlone rest then .text else .sign (.unary letter)
    | some .opening => if rest.isEmpty then .text else .sign .opening
    | some sign => .sign sign
    | none => .text

/-- The answer to a question about one word. -/
def askOne (facts : Text → Option Facts) (letter : Char) (word : Text) : Option Bool :=
  let file := facts word
  match letter with
  | 'z' => some word.isEmpty
  | 'n' => some !word.isEmpty
  | 't' => (Number.ofText? false word).map fun _ => false
  | 'e' => some file.isSome
  | 'r' => some file.isSome
  | 'w' => some file.isSome
  | 'O' => some file.isSome
  | 'G' => some file.isSome
  | 'x' => some (file.any fun found => found.isDirectory || found.isExecutable)
  | 'f' => some (file.any fun found => !found.isDirectory && !found.isDevice)
  | 'd' => some (file.any Facts.isDirectory)
  | 'c' => some (file.any Facts.isDevice)
  | 's' => some (file.any fun found => !found.isEmpty)
  | _ => some false

/-- The answer to a question about two words. -/
def askTwo (isSame : Text → Text → Bool) (name : String) (left right : Text) : Option Bool :=
  let compared (test : Int64 → Int64 → Bool) : Option Bool := do
    let m ← Number.ofText? false left
    let n ← Number.ofText? false right
    return test m n
  match name with
  | "=" => some (left == right)
  | "!=" => some (left != right)
  | "<" => some (decide (left < right))
  | ">" => some (decide (right < left))
  | "-eq" => compared (· == ·)
  | "-ne" => compared (· != ·)
  | "-lt" => compared fun m n => decide (m < n)
  | "-le" => compared fun m n => decide (m ≤ n)
  | "-gt" => compared fun m n => decide (n < m)
  | "-ge" => compared fun m n => decide (n ≤ m)
  | "-ef" => some (isSame left right)
  | _ => some false

/-- An answer, and the words from the last one on that it hangs on; none for words that cannot be
read. -/
abbrev Answer := Option (Bool × List Text)

section

variable (facts : Text → Option Facts) (isSame : Text → Text → Bool)

mutual

/-- Answers alternatives, of which the first word means `first`. -/
def alternatives (first : Reading) (words : List Text) : (fuel : Nat) → Answer
  | 0 => none
  | fuel + 1 => do
    let (holds, words) ← conjunction first words fuel
    if readingOf (words.drop 1) = .sign .or then
      let (others, words) ← alternatives (readingOf (words.drop 2)) (words.drop 2) fuel
      return (holds || others, words)
    else return (holds, words)

/-- Answers joint conditions. -/
def conjunction (first : Reading) (words : List Text) : (fuel : Nat) → Answer
  | 0 => none
  | fuel + 1 => do
    let (holds, words) ← negation first words fuel
    if readingOf (words.drop 1) = .sign .and then
      let (others, words) ← conjunction (readingOf (words.drop 2)) (words.drop 2) fuel
      return (holds && others, words)
    else return (holds, words)

/-- Answers a condition that may be negated. -/
def negation (first : Reading) (words : List Text) : (fuel : Nat) → Answer
  | 0 => none
  | fuel + 1 => do
    if first = .sign .not then
      let next := readingOf (words.drop 1)
      let (holds, words) ←
        negation next (if next = .finish then words else words.drop 1) fuel
      return (!holds, words)
    else question first words fuel

/-- Answers a single question. -/
def question (first : Reading) (words : List Text) : (fuel : Nat) → Answer
  | 0 => none
  | fuel + 1 => do
    match first, words with
    | .finish, _ => return (false, words)
    | .sign .opening, _ :: rest =>
      if readingOf rest = .sign .closing then return (false, rest)
      else
        let (holds, words) ← alternatives (readingOf rest) rest fuel
        if readingOf (words.drop 1) = .sign .closing then return (holds, words.drop 1) else none
    | .sign (.unary letter), _ :: word :: rest =>
      return (← askOne facts letter word, word :: rest)
    | .sign (.unary _), _ => none
    | _, left :: name :: rest =>
      match readingOf (name :: rest), rest with
      | .sign (.binary sign), right :: _ => return (← askTwo isSame sign left right, rest)
      | .sign (.binary _), [] => none
      | _, _ => return (!left.isEmpty, words)
    | _, [word] => return (!word.isEmpty, words)
    | _, [] => return (false, [])

end

/-- Answers words of which the first means `first`, unless too many are left. -/
def answer (first : Reading) (words : List Text) : Option Bool := do
  let (holds, rest) ← alternatives facts isSame first words (words.length * 4 + 8)
  if rest.length > 1 then none else some holds

/-- Few words without the negations before them, and whether there are any. One negation counts as
many do. -/
def withoutNegations : List Text → Bool × List Text
  | ['!'] :: rest =>
    if (rest.length = 2 ∧ !(rest.head?.any isBinary)) ∨ rest.length = 3 then
      (true, (withoutNegations rest).2)
    else (false, ['!'] :: rest)
  | words => (false, words)

/-- Whether a condition holds; none for words that cannot be read. -/
def holds? (words : List Text) : Option Bool :=
  if words.isEmpty then some false
  else
    let (isNegated, words) := withoutNegations words
    let first := if words.length = 3 ∧ words[1]?.any isBinary then .text else readingOf words
    let isEnclosed :=
      first ≠ .text ∧ (words.length = 3 ∨ words.length = 4) ∧ words.head? = some ['(']
        ∧ words.getLast? = some [')']
    let inner := (words.drop 1).dropLast
    let result :=
      if isEnclosed then answer facts isSame (readingOf inner) inner
      else answer facts isSame first words
    result.map (· != isNegated)

end

end GoAssist.Shell.Condition
