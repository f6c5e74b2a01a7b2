import GoAssist.Json.Value
import GoAssist.Text.Digit

/-!
# JSON tokens

A text is cut into tokens by one pass over its characters. The rules are those of the standard, with
nothing added: no comments, no leading zeros, no control characters in strings, and only blanks,
tabs and line ends between tokens. `Scan.run_append` says that a text may be scanned in parts.
-/

namespace GoAssist

/-- The smallest parts of a JSON text. -/
inductive Token where
  | openBrace
  | closeBrace
  | openBracket
  | closeBracket
  | colon
  | comma
  | null
  | bool (value : Bool)
  | number (literal : String)
  | string (raw : RawString)
  deriving DecidableEq, Repr

/-- The part of a number that was read last. -/
inductive NumberPart where
  | minus
  | zero
  | whole
  | point
  | fraction
  | exponent
  | exponentSign
  | exponentDigits
  deriving DecidableEq, Repr

namespace NumberPart

/-- Where one more character leads, if the number may go on with it. -/
def next? (part : NumberPart) (c : Char) : Option NumberPart :=
  let isExponent := c = 'e' ∨ c = 'E'
  match part with
  | minus => if c = '0' then some zero else if c.isDigit then some whole else none
  | zero => if c = '.' then some point else if isExponent then some exponent else none
  | whole =>
    if c.isDigit then some whole
    else if c = '.' then some point
    else if isExponent then some exponent
    else none
  | point => if c.isDigit then some fraction else none
  | fraction =>
    if c.isDigit then some fraction else if isExponent then some exponent else none
  | exponent =>
    if c = '+' ∨ c = '-' then some exponentSign
    else if c.isDigit then some exponentDigits
    else none
  | exponentSign => if c.isDigit then some exponentDigits else none
  | exponentDigits => if c.isDigit then some exponentDigits else none

/-- Whether a number may end here. -/
def isComplete : NumberPart → Bool
  | zero | whole | fraction | exponentDigits => true
  | minus | point | exponent | exponentSign => false

end NumberPart

/-- What the characters read so far have begun. -/
inductive ScanMode where
  /-- Nothing. -/
  | between
  /-- A word of which the characters `rest` are still to come. -/
  | word (rest : List Char) (token : Token)
  /-- A number; what was read of it, backwards. -/
  | number (part : NumberPart) (written : List Char)
  /-- A string; what was read of it, backwards. -/
  | string (pieces : RawString)
  /-- A string, just after a backslash. -/
  | escape (pieces : RawString)
  /-- A string, in the digits of a UTF-16 unit of which `missing` are still to come. -/
  | unit (pieces : RawString) (missing : Nat) (code : Nat)
  deriving DecidableEq, Repr

/-- A scan in progress: the token that has begun, and those that are complete, backwards. -/
structure Scan where
  /-- What has begun. -/
  mode : ScanMode
  /-- The tokens before it, the last one first. -/
  tokens : List Token
  deriving DecidableEq, Repr

/-- The character that a short escape stands for. -/
def shortEscape? : Char → Option Char
  | '"' => some '"'
  | '\\' => some '\\'
  | '/' => some '/'
  | 'b' => some '\x08'
  | 'f' => some '\x0c'
  | 'n' => some '\n'
  | 'r' => some '\r'
  | 't' => some '\t'
  | _ => none

/-- Whether a character may stand between tokens. -/
def isBlank (c : Char) : Bool :=
  c == ' ' || c == '\t' || c == '\n' || c == '\r'

namespace Scan

/-- Begins a token. -/
def start (tokens : List Token) (c : Char) : Option Scan :=
  if isBlank c then some ⟨.between, tokens⟩
  else
    match c with
    | '{' => some ⟨.between, .openBrace :: tokens⟩
    | '}' => some ⟨.between, .closeBrace :: tokens⟩
    | '[' => some ⟨.between, .openBracket :: tokens⟩
    | ']' => some ⟨.between, .closeBracket :: tokens⟩
    | ':' => some ⟨.between, .colon :: tokens⟩
    | ',' => some ⟨.between, .comma :: tokens⟩
    | 'n' => some ⟨.word ['u', 'l', 'l'] .null, tokens⟩
    | 't' => some ⟨.word ['r', 'u', 'e'] (.bool true), tokens⟩
    | 'f' => some ⟨.word ['a', 'l', 's', 'e'] (.bool false), tokens⟩
    | '"' => some ⟨.string [], tokens⟩
    | '-' => some ⟨.number .minus ['-'], tokens⟩
    | '0' => some ⟨.number .zero ['0'], tokens⟩
    | _ => if c.isDigit then some ⟨.number .whole [c], tokens⟩ else none

/-- Reads one character. -/
def step (scan : Scan) (c : Char) : Option Scan :=
  match scan.mode with
  | .between => start scan.tokens c
  | .word [] token => start (token :: scan.tokens) c
  | .word (d :: rest) token => if c = d then some ⟨.word rest token, scan.tokens⟩ else none
  | .number part written =>
    match part.next? c with
    | some part => some ⟨.number part (c :: written), scan.tokens⟩
    | none =>
      if part.isComplete then start (.number (String.ofList written.reverse) :: scan.tokens) c
      else none
  | .string pieces =>
    if c = '"' then some ⟨.between, .string pieces.reverse :: scan.tokens⟩
    else if c = '\\' then some ⟨.escape pieces, scan.tokens⟩
    else if c.toNat < 0x20 then none
    else some ⟨.string (.char c :: pieces), scan.tokens⟩
  | .escape pieces =>
    if c = 'u' then some ⟨.unit pieces 4 0, scan.tokens⟩
    else (shortEscape? c).map fun d => ⟨.string (.char d :: pieces), scan.tokens⟩
  | .unit pieces missing code =>
    (hexDigit? c).map fun digit =>
      let code := code * 16 + digit
      if missing ≤ 1 then ⟨.string (.unit code :: pieces), scan.tokens⟩
      else ⟨.unit pieces (missing - 1) code, scan.tokens⟩

/-- The tokens, in order, if none is left incomplete. -/
def finish? (scan : Scan) : Option (List Token) :=
  match scan.mode with
  | .between => some scan.tokens.reverse
  | .word [] token => some (token :: scan.tokens).reverse
  | .number part written =>
    if part.isComplete then some (.number (String.ofList written.reverse) :: scan.tokens).reverse
    else none
  | _ => none

/-- Reads characters up to the first that fits nowhere. -/
def run (scan : Scan) (text : List Char) : Option Scan :=
  text.foldlM step scan

/-- A text may be scanned in parts. -/
theorem run_append (scan : Scan) (first second : List Char) :
    scan.run (first ++ second) = (scan.run first).bind fun scan => scan.run second := by
  simp [run, List.foldlM_append]

end Scan

/-- The tokens of a text. -/
def tokens? (text : List Char) : Option (List Token) :=
  (Scan.run ⟨.between, []⟩ text).bind Scan.finish?

end GoAssist
