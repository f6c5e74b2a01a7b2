import GoAssist.Unicode.CodeSet

/-!
# White space

The White_Space property of the Unicode standard, and texts without white space at their ends.
-/

namespace GoAssist.Unicode

/-- The code points with the property White_Space. -/
def whiteSpace : CodeSet where
  ranges := #[
  (0x0009, 0x000D), (0x0020, 0x0020), (0x0085, 0x0085), (0x00A0, 0x00A0), (0x1680, 0x1680),
  (0x2000, 0x200A), (0x2028, 0x2029), (0x202F, 0x202F), (0x205F, 0x205F), (0x3000, 0x3000)]

/-- Whether a character is white space. -/
def isWhiteSpace (c : Char) : Bool :=
  whiteSpace.contains c.toNat

/-- A text without the characters at its end that pass a test. -/
def dropTrailing (test : Char → Bool) (text : List Char) : List Char :=
  (text.reverse.dropWhile test).reverse

/-- A text without the characters at both ends that pass a test. -/
def trimBy (test : Char → Bool) (text : List Char) : List Char :=
  dropTrailing test (text.dropWhile test)

/-- A text without the white space at its ends. -/
def trim (text : List Char) : List Char :=
  trimBy isWhiteSpace text

end GoAssist.Unicode
