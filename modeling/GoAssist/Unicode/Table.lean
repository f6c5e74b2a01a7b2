import GoAssist.Text.Digit
import GoAssist.Text.Pieces
import GoAssist.Unicode.CodeSet

/-!
# Tables of code points

Large tables are written as lines of words between blanks. In a set a word is a code point or a range
`A-B`, in hexadecimal digits. `mem_words` says that no word holds a blank.
-/

namespace GoAssist.Unicode

/-- The words of some lines. -/
def words (lines : List String) : List (List Char) :=
  lines.flatMap fun line => pieces ' ' line.toList

/-- No word holds a blank. -/
theorem mem_words {lines : List String} {word : List Char} (h : word ∈ words lines) :
    ' ' ∉ word := by
  obtain ⟨line, _, hpiece⟩ := List.mem_flatMap.mp h
  exact not_mem_of_mem_pieces hpiece

/-- The first and last code point of a range. -/
def rangeOf (word : List Char) : Nat × Nat :=
  match pieces '-' word with
  | [first, last] => (numberOf 16 first, numberOf 16 last)
  | _ => (numberOf 16 word, numberOf 16 word)

/-- The set of the code points that are listed, in order. -/
def CodeSet.ofLines (lines : List String) : CodeSet :=
  ⟨((words lines).map rangeOf).toArray⟩

/-- What stands before and after a sign. -/
def splitAt (sign : Char) (word : List Char) : List Char × List Char :=
  (word.takeWhile (· != sign), (word.dropWhile (· != sign)).drop 1)

end GoAssist.Unicode
