import GoAssist.Line.Identifier

/-!
# Where the cursor stands

A cursor is in member position directly after `name.`, where `name` is an identifier that does not
begin with a number; anywhere else it is in general position. Only the text before the cursor
decides (`analyze_append`), and a column past the end of the line counts as its end.
-/

namespace GoAssist

/-- What kind of name can be completed at the cursor. -/
inductive Mode where
  /-- A member of the package whose name and dot precede the cursor. -/
  | member (package : String)
  /-- Anything that may begin an expression or a statement. -/
  | general
  deriving DecidableEq, Repr, Inhabited

/-- A classified cursor, with the columns that a suggestion replaces. -/
structure Context where
  /-- What can be completed. -/
  mode : Mode
  /-- The columns of the part of an identifier before the cursor. -/
  span : Span
  deriving DecidableEq, Repr, Inhabited

/-- The package name of a member position, if any. -/
def Context.package? (context : Context) : Option String :=
  match context.mode with
  | .member package => some package
  | .general => none

/-- The identifier before the dot that ends `before`, unless it is empty or begins with a number. -/
def packageBeforeDot? (before : List Char) : Option (List Char) :=
  match before.getLast? with
  | some '.' =>
    let name := identSuffix before.dropLast
    match name with
    | [] => none
    | c :: _ => if isIdentStart c then some name else none
  | _ => none

/-- The columns of the part of an identifier that stands before the cursor, possibly none. -/
def typedSpan (line : Line) (column : Nat) : Span :=
  let before := line.take column
  ⟨identStart before before.length, before.length⟩

/-- Classifies a cursor. -/
def analyze (line : Line) (column : Nat) : Context :=
  let before := line.take column
  { mode := match packageBeforeDot? before with
      | some name => .member (String.ofList name)
      | none => .general
    span := ⟨identStart before before.length, before.length⟩ }

/-- Text after the cursor is not looked at. -/
theorem analyze_append {line : Line} {column : Nat} (rest : List Char)
    (h : column ≤ line.length) : analyze (line ++ rest) column = analyze line column := by
  simp [analyze, List.take_append_of_le_length h]

theorem span_analyze (line : Line) (column : Nat) :
    (analyze line column).span = typedSpan line column := rfl

end GoAssist
