import GoAssist.Files.FileSystem
import GoAssist.Shell.Glob
import GoAssist.Text.Bytes

/-!
# Fields

What a word stands for is cut into fields: values that are not quoted are cut at separators, and a
list of values between its members. A field that holds a pattern stands for the paths that match it,
if there are any. What is quoted is never cut (`fields_quoted`).
-/

namespace GoAssist.Shell

/-- Where a character of an expanded word comes from. -/
inductive Kind where
  /-- It stands in the word. -/
  | written
  | quoted
  /-- It belongs to a value that is not quoted. -/
  | value
  deriving DecidableEq, Repr

/-- A part of an expanded word. -/
inductive Piece where
  | char (c : Char) (kind : Kind)
  /-- The end of a member of a list. -/
  | gap
  /-- Quotes with nothing between them. -/
  | quotes
  deriving DecidableEq, Repr

/-- The parts for a text of one kind. Quoted text is there even if it is empty. -/
def piecesOf (kind : Kind) (text : Text) : List Piece :=
  if text.isEmpty && kind == .quoted then [.quotes] else text.map fun c => .char c kind

/-- The marks of an expanded word that is not cut; members of a list stand apart by a blank. -/
def marksOf (pieces : List Piece) : List Mark :=
  pieces.filterMap fun piece =>
    match piece with
    | .char c kind => some ⟨c, kind == .quoted⟩
    | .gap => some ⟨' ', true⟩
    | .quotes => none

/-- The text of an expanded word that is not cut. -/
def textOf (pieces : List Piece) : Text :=
  (marksOf pieces).map Mark.char

/-! ## Cutting -/

/-- What separates fields if nothing else is said. -/
def usualSeparators : Text := [' ', '\t', '\n']

/-- Fields that are being cut. -/
structure Cutting where
  /-- The fields that are complete, the last one first. -/
  done : List (List Mark)
  /-- The field that has begun, if one has, backwards. -/
  current : Option (List Mark)
  /-- Whether blanks ended the last field, so that a sign after them does not end another. -/
  afterBlank : Bool

namespace Cutting

/-- Adds a character to the field, which may begin with it. -/
def push (cutting : Cutting) (mark : Mark) : Cutting :=
  ⟨cutting.done, some (mark :: cutting.current.getD []), false⟩

/-- Ends the field, if one has begun. -/
def finish (cutting : Cutting) : Cutting :=
  match cutting.current with
  | some marks => ⟨marks.reverse :: cutting.done, none, false⟩
  | none => cutting

/-- Takes one part of an expanded word. -/
def step (separators : Text) (cutting : Cutting) (piece : Piece) : Cutting :=
  match piece with
  | .quotes => { cutting with current := some (cutting.current.getD []) }
  | .gap => { cutting.finish with afterBlank := false }
  | .char c kind =>
    if kind = .value ∧ separators.contains c then
      let isBlank := usualSeparators.contains c
      match cutting.current with
      | some _ => { cutting.finish with afterBlank := isBlank }
      | none =>
        if isBlank then cutting
        else if cutting.afterBlank then { cutting with afterBlank := false }
        else { cutting with done := [] :: cutting.done }
    else cutting.push ⟨c, kind == .quoted⟩

end Cutting

/-- The fields of an expanded word. -/
def fields (separators : Text) (pieces : List Piece) : List (List Mark) :=
  (pieces.foldl (Cutting.step separators) ⟨[], none, false⟩).finish.done.reverse

theorem foldl_step_quoted (separators text : Text) (cutting : Cutting) :
    (text.map fun c => Piece.char c .quoted).foldl (Cutting.step separators) cutting
      = if text.isEmpty then cutting
        else ⟨cutting.done, some ((Glob.quoted text).reverse ++ cutting.current.getD []), false⟩ := by
  induction text generalizing cutting with
  | nil => rfl
  | cons c rest ih =>
    rw [List.map_cons, List.foldl_cons, ih]
    cases rest <;> simp [Cutting.step, Cutting.push, Glob.quoted]

/-- What is quoted is one field. -/
theorem fields_quoted (separators text : Text) :
    fields separators (piecesOf .quoted text) = [Glob.quoted text] := by
  cases text with
  | nil => rfl
  | cons c rest =>
    change (Cutting.finish (((c :: rest).map fun c => Piece.char c .quoted).foldl
      (Cutting.step separators) ⟨[], none, false⟩)).done.reverse = _
    rw [foldl_step_quoted]
    simp [Cutting.finish]

/-! ## Paths -/

/-- The parts of a pattern between slashes, each with the slashes before it. -/
def pathParts : List Mark → List (Text × List Mark)
  | [] => []
  | mark :: rest =>
    match pathParts rest with
    | [] => if mark.char = '/' then [(['/'], [])] else [([], [mark])]
    | (slashes, part) :: others =>
      if mark.char = '/' then
        if slashes.isEmpty then (['/'], part) :: others else (mark.char :: slashes, part) :: others
      else if slashes.isEmpty then ([], mark :: part) :: others
      else ([], [mark]) :: (slashes, part) :: others

/-- The names in a directory that match a pattern. One that begins with a dot is met only by a dot. -/
def matchingNames (files : FileSystem) (location : Location) (part : List Mark) : List Text :=
  let names := [['.'], ['.', '.']] ++ (files.names location).map Bytes.ofString
  let pattern := Glob.items part
  names.filter fun name =>
    (name.head? != some '.' || part.head?.any (·.char == '.')) && Glob.accepts pattern name

/-- The paths that match the rest of a pattern, after what was matched up to a location. -/
def pathsFrom (files : FileSystem) (before : Text) (location : Location) :
    List (Text × List Mark) → List Text
  | [] => if (files.node? location).isSome then [before] else []
  | (slashes, part) :: rest =>
    let isDirectory :=
      match files.node? location with
      | some .directory => true
      | _ => false
    if !isDirectory then []
    else if part.isEmpty then [before ++ slashes]
    else
      let names := if Glob.isMeta part then matchingNames files location part
        else [part.map Mark.char]
      names.flatMap fun name =>
        match Bytes.toString? name with
        | some text =>
          let next := ((Path.component? text.toList).map (Location.move location)).getD location
          pathsFrom files (before ++ slashes ++ name) next rest
        | none => []

/-- The paths that match a pattern, in order. -/
def matchingPaths (files : FileSystem) (working : Location) (pattern : List Mark) : List Text :=
  let origin := if pattern.head?.any (·.char == '/') then [] else working
  (pathsFrom files [] origin (pathParts pattern)).mergeSort fun a b => !decide (b < a)

/-- The texts that a field stands for. -/
def fieldTexts (files : FileSystem) (working : Location) (expandsPaths : Bool) (field : List Mark) :
    List Text :=
  let plain := [field.map Mark.char]
  if expandsPaths && Glob.isMeta field then
    let found := matchingPaths files working field
    if found.isEmpty then plain else found
  else plain

end GoAssist.Shell
