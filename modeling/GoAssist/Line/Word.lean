import GoAssist.Line.Identifier

/-!
# The word at a column

A word touches a column if it holds the character there or ends there. `span_text_of_wordAt?` says
that the text of a word is what its span covers.
-/

namespace GoAssist

/-- An identifier of a line and where it stands. -/
structure Word where
  /-- The identifier. -/
  text : List Char
  /-- Its columns. -/
  span : Span
  deriving DecidableEq, Repr

/-- The whole identifier that touches a column, if one does. A column past the end of the line
counts as its end. -/
def wordAt? (line : Line) (column : Nat) : Option Word :=
  let cursor := min column line.length
  let span : Span := ⟨identStart line cursor, cursor + (identHead (line.drop cursor)).length⟩
  if span.start < span.stop then some ⟨span.text line, span⟩ else none

/-- The text of a word is what its span covers. -/
theorem span_text_of_wordAt? {line : Line} {column : Nat} {word : Word}
    (h : wordAt? line column = some word) : word.span.text line = word.text := by
  simp only [wordAt?] at h
  split at h
  · cases h; rfl
  · simp at h

end GoAssist
