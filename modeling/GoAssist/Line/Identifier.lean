import GoAssist.Unicode.Alphabetic
import GoAssist.Unicode.Numeric

/-!
# Identifiers in a line

An identifier is a run of letters, numbers and underscores. `identSuffix` is the longest such run
that ends a text: `isIdentChar_of_mem_identSuffix` says that it holds identifier characters only,
`take_append_identSuffix` that it ends the text, and `not_isIdentChar_of_getLast?` that no longer
one does.
-/

namespace GoAssist

open Unicode

/-- One line of source text. A column counts the characters before it. -/
abbrev Line := List Char

/-- The columns from `start` up to, and without, `stop`. -/
structure Span where
  /-- The first column. -/
  start : Nat
  /-- The column after the last one. -/
  stop : Nat
  deriving DecidableEq, Repr, Inhabited

/-- How many columns a span covers. -/
def Span.length (span : Span) : Nat :=
  span.stop - span.start

/-- The part of a line in a span. -/
def Span.text (span : Span) (line : Line) : List Char :=
  (line.drop span.start).take span.length

/-- A letter, a number or an underscore. -/
def isIdentChar (c : Char) : Bool :=
  isAlphabetic c || isNumeric c || c == '_'

/-- An identifier character that may come first: not a number. -/
def isIdentStart (c : Char) : Bool :=
  isIdentChar c && !isNumeric c

/-- The longest run of identifier characters that ends `text`. -/
def identSuffix (text : List Char) : List Char :=
  (text.reverse.takeWhile isIdentChar).reverse

/-- The longest run of identifier characters that begins `text`. -/
def identHead (text : List Char) : List Char :=
  text.takeWhile isIdentChar

/-- The column where the identifier characters that end at column `stop` begin. -/
def identStart (line : Line) (stop : Nat) : Nat :=
  stop - (identSuffix (line.take stop)).length

/-! ## The run that ends a text -/

theorem not_isIdentChar_dot : isIdentChar '.' = false := by decide

theorem isIdentChar_of_mem_identSuffix {text : List Char} {c : Char} (h : c ∈ identSuffix text) :
    isIdentChar c = true := by
  rw [identSuffix, List.mem_reverse] at h
  exact List.all_eq_true.mp List.all_takeWhile c h

/-- The run ends the text. -/
theorem take_append_identSuffix (text : List Char) :
    (text.reverse.dropWhile isIdentChar).reverse ++ identSuffix text = text := by
  rw [identSuffix, ← List.reverse_append, List.takeWhile_append_dropWhile, List.reverse_reverse]

/-- The character before the run is not an identifier character. -/
theorem not_isIdentChar_of_getLast? {text : List Char} {c : Char}
    (h : (text.reverse.dropWhile isIdentChar).reverse.getLast? = some c) :
    isIdentChar c = false := by
  rw [List.getLast?_reverse] at h
  have := List.head?_dropWhile_not isIdentChar text.reverse
  rw [h] at this
  simpa using this

end GoAssist
