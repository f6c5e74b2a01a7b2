import GoAssist.Line.Identifier
import GoAssist.Text.Pieces

/-!
# Documents

A document is a text and its lines. Lines end at a line feed; a carriage return before it, or at the
end of the text, belongs to the line ending. A text that ends with a line feed has an empty last
line, which is where the cursor stands after a new line is typed. Replacing the text leaves nothing of
the old one (`foldl_update_ofText`).
-/

namespace GoAssist

/-- A line without the carriage return at its end, if there is one. -/
def dropCarriageReturn (line : Line) : Line :=
  if line.getLast? = some '\r' then line.dropLast else line

/-- The lines of a text. -/
def textLines (text : List Char) : List Line :=
  (pieces '\n' text).map dropCarriageReturn

/-- An open document. -/
structure Document where
  /-- The whole text. -/
  text : String
  /-- Its lines, kept for looking up positions. -/
  lines : Array Line
  deriving DecidableEq, Repr, Inhabited

namespace Document

/-- The document of a text. -/
def ofText (text : String) : Document :=
  ⟨text, (textLines text.toList).toArray⟩

/-- The document after its text was replaced. -/
def update (document : Document) (text : String) : Document :=
  { document with text := text, lines := (textLines text.toList).toArray }

/-- A line by its number, counted from zero. -/
def line? (document : Document) (number : Nat) : Option Line :=
  document.lines[number]?

/-- Replacing the text leaves nothing of the old one. -/
theorem update_eq_ofText (document : Document) (text : String) :
    document.update text = ofText text := rfl

/-- Replacing the text again and again leaves a fresh document of the last text. -/
theorem foldl_update_ofText (texts : List String) (text : String) :
    texts.foldl update (ofText text) = ofText (texts.getLastD text) := by
  induction texts generalizing text with
  | nil => rfl
  | cons first rest ih =>
      rw [List.foldl_cons, update_eq_ofText, ih, List.getLastD_cons]

end Document

/-- A text has one line more than it has line feeds. -/
theorem length_textLines (text : List Char) :
    (textLines text).length = text.count '\n' + 1 := by
  rw [textLines, List.length_map, length_pieces]

end GoAssist
