import GoAssist.Line.Identifier
import GoAssist.Pattern.Basic
import GoAssist.Text.Pieces
import GoAssist.Unicode.WhiteSpace

/-!
# Log filters

A log filter is a list of directives between commas. A directive is a level, or a target or a span
or both, perhaps with an equals sign and a level after it; a span may ask for fields. Directives may
have blanks at their ends, but their parts are then looked up at the places they have without the
blanks before them. A place inside a character is a crash (`LogFilter.crash`).
A filter may have no directive at all.
-/

namespace GoAssist

open Unicode

/-- What reading a log filter comes to. -/
inductive LogFilter where
  | valid
  | invalid
  /-- The reader crashes. -/
  | crash
  deriving DecidableEq, Repr

/-- What follows the first `count` bytes of a text, if a character ends there. -/
def dropBytes? (count : Nat) : List Char → Option (List Char)
  | [] => if count = 0 then some [] else none
  | c :: rest =>
    if count = 0 then some (c :: rest)
    else if c.utf8Size ≤ count then dropBytes? (count - c.utf8Size) rest
    else none

/-- The first `count` bytes of a text, if a character ends there. -/
def takeBytes? (count : Nat) : List Char → Option (List Char)
  | [] => if count = 0 then some [] else none
  | c :: rest =>
    if count = 0 then some []
    else if c.utf8Size ≤ count then (takeBytes? (count - c.utf8Size) rest).map (c :: ·)
    else none

/-- The bytes of a text from place `start` up to, and without, `stop`, if characters end there. -/
def sliceBytes? (start stop : Nat) (text : List Char) : Option (List Char) :=
  (dropBytes? start text).bind (takeBytes? (stop - start))

/-- The levels by name. -/
def logLevels : List String :=
  ["error", "warn", "info", "debug", "trace", "off"]

/-- The value of decimal digits, which may have a plus sign before them. -/
def unsigned? (text : List Char) : Option Nat :=
  let digits := if text.head? = some '+' then text.drop 1 else text
  if digits.isEmpty || !digits.all Char.isDigit then none
  else some (digits.foldl (fun n d => n * 10 + (d.toNat - '0'.toNat)) 0)

/-- Whether a text names a level, in any case or by its number. -/
def isLogLevel (text : List Char) : Bool :=
  match unsigned? text with
  | some n => n ≤ 5
  | none => text.isEmpty || logLevels.contains (String.ofList (text.map Char.toLower))

/-- Whether a text is decimal digits with at most one point among them. -/
def isDecimalFraction (text : List Char) : Bool :=
  let whole := text.takeWhile Char.isDigit
  match text.drop whole.length with
  | [] => !whole.isEmpty
  | '.' :: fraction => fraction.all Char.isDigit && !(whole.isEmpty && fraction.isEmpty)
  | _ => false

/-- Whether a text without a sign is a number in decimal or scientific notation. -/
def isPlainNumber (text : List Char) : Bool :=
  let isExponentSign (c : Char) : Bool := c == 'e' || c == 'E'
  let mantissa := text.takeWhile (!isExponentSign ·)
  isDecimalFraction mantissa &&
    match text.drop mantissa.length with
    | [] => true
    | _ :: exponent =>
      let digits :=
        if exponent.head? = some '+' ∨ exponent.head? = some '-' then exponent.drop 1
        else exponent
      !digits.isEmpty && digits.all Char.isDigit

/-- Whether a text is a number, or one of the words for what is no number. -/
def isNumberText (text : List Char) : Bool :=
  let unsigned :=
    if text.head? = some '+' ∨ text.head? = some '-' then text.drop 1 else text
  isPlainNumber unsigned ||
    ["inf", "infinity", "nan"].contains (String.ofList (unsigned.map Char.toLower))

/-- Whether a text asks for a field: a name, perhaps with an equals sign and a number or pattern
after it. -/
def isFieldFilter (text : List Char) : Bool :=
  !text.isEmpty &&
    match pieces '=' text with
    | _ :: value :: _ => isNumberText value || Pattern.isPattern value
    | _ => true

namespace LogFilter

/-- What the characters of a directive that are read have begun, and at which place. -/
inductive Part where
  | nothing
  /-- A level or target. -/
  | name (start : Nat)
  | span (start : Nat)
  | field (start : Nat)
  /-- The fields are closed, the span is not. -/
  | fields
  /-- The span is closed. -/
  | spanned
  | level (start : Nat)
  deriving DecidableEq, Repr

/-- Reads one character of a directive at a place; `text` is the directive with its blanks. -/
def step (text : List Char) (part : Part) (place : Nat) (c : Char) : Except LogFilter Part :=
  let slice (start : Nat) : Except LogFilter (List Char) :=
    match sliceBytes? start place text with
    | some slice => .ok slice
    | none => .error .crash
  match part with
  | .nothing =>
    if c = '[' then .ok (.span (place + 1))
    else if isIdentChar c || c == '-' || c == ':' then .ok (.name place)
    else .error .invalid
  | .name start =>
    if c = '=' then (slice start).map fun _ => .level (place + 1)
    else if c = '[' then (slice start).map fun _ => .span (place + 1)
    else .ok (.name start)
  | .span start =>
    if c = ']' then (slice start).map fun _ => .spanned
    else if c = '\x7b' then (slice start).map fun _ => .field (place + 1)
    else .ok (.span start)
  | .field start =>
    if c = '\x7d' then do
      if isFieldFilter (← slice start) then .ok .fields else .error .invalid
    else .ok (.field start)
  | .fields => if c = ']' then .ok .spanned else .error .invalid
  | .spanned => if c = '=' then .ok (.level (place + 1)) else .error .invalid
  | .level start => .ok (.level start)

/-- Reads the characters of a directive from a place on. -/
def readFrom (text : List Char) (part : Part) (place : Nat) :
    List Char → Except LogFilter Part
  | [] => .ok part
  | c :: rest => do
    readFrom text (← step text part place c) (place + c.utf8Size) rest

/-- What is left of a directive from a place on. -/
def tailFrom (text : List Char) (start : Nat) : Except LogFilter (List Char) :=
  match dropBytes? start text with
  | some rest => .ok rest
  | none => .error .crash

/-- Reads a directive. -/
def readDirective (text : List Char) : Except LogFilter Unit := do
  match ← readFrom text .nothing 0 (trim text) with
  | .name start => (tailFrom text start).map fun _ => ()
  | .level start =>
    if isLogLevel (← tailFrom text start) then .ok () else .error .invalid
  | .spanned => .ok ()
  | _ => .error .invalid

/-- Reads a log filter. Empty directives are passed over, and the first fault counts. -/
def read (text : String) : LogFilter :=
  match (((pieces ',' text.toList).filter (!·.isEmpty)).mapM readDirective) with
  | .ok _ => .valid
  | .error fault => fault

end LogFilter

end GoAssist
