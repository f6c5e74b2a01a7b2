import GoAssist.Completion.Candidate
import GoAssist.Document.Basic
import GoAssist.Document.Column
import GoAssist.Hover

/-!
# Answers about a position in a document

An editor's position is a line number and a column in UTF-16 units. Only the text of that line
decides the answer, and its columns are given back in UTF-16 units. Past the last line completion
works as on an empty line, and there is no hover text (`hover?_of_line?_eq_none`).
-/

namespace GoAssist

/-- A place in a document, by line number and UTF-16 column, both counted from zero. -/
structure Position where
  /-- The line. -/
  line : UInt32
  /-- The column. -/
  character : UInt32
  deriving DecidableEq, Repr, Inhabited

/-- The text between two positions. -/
structure TextRange where
  /-- Where it begins. -/
  start : Position
  /-- Where it ends; the text there is not part of it. -/
  stop : Position
  deriving DecidableEq, Repr, Inhabited

/-- A candidate as an editor takes it. -/
structure Item where
  /-- The name shown. -/
  label : String
  /-- What it stands for. -/
  kind : CandidateKind
  /-- A line of explanation. -/
  detail : Option String
  /-- Whether the new text has tab stops. -/
  isSnippet : Bool
  /-- The text that replaces the range. -/
  newText : String
  /-- The range that is replaced. -/
  range : TextRange
  deriving DecidableEq, Repr, Inhabited

/-- Hover text and the range of the identifier that it explains. -/
structure HoverAnswer where
  /-- The blocks of text. -/
  contents : List String
  /-- Where the identifier stands. -/
  range : TextRange
  deriving DecidableEq, Repr, Inhabited

/-- The range that a span of a line covers. -/
def Span.toTextRange (span : Span) (number : UInt32) (line : Line) : TextRange :=
  ⟨⟨number, utf16Column line span.start⟩, ⟨number, utf16Column line span.stop⟩⟩

/-- A candidate on a line as an editor takes it. -/
def Item.ofCandidate (number : UInt32) (line : Line) (candidate : Candidate) : Item where
  label := candidate.label
  kind := candidate.kind
  detail := candidate.detail
  isSnippet := candidate.isSnippet
  newText := candidate.insertText
  range := candidate.span.toTextRange number line

namespace Document

/-- What can be completed at a position. Past the last line nothing has been typed yet. -/
def items (registry : Registry) (document : Document) (position : Position) : List Item :=
  let line := (document.line? position.line.toNat).getD []
  (registry.candidatesAt line (charColumn line position.character)).map
    (.ofCandidate position.line line)

/-- The explanation of the identifier at a position. -/
def hover? (registry : Registry) (document : Document) (position : Position) :
    Option HoverAnswer := do
  let line ← document.line? position.line.toNat
  let word ← wordAt? line (charColumn line position.character)
  let hover ← registry.hover? (String.ofList word.text)
  return ⟨hover.contents, word.span.toTextRange position.line line⟩

/-- Past the last line there is no hover text. -/
theorem hover?_of_line?_eq_none {registry : Registry} {document : Document} {position : Position}
    (h : document.line? position.line.toNat = none) :
    document.hover? registry position = none := by
  simp [hover?, h]

end Document

end GoAssist
