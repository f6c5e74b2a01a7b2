import GoAssist.Shell.Field
import GoAssist.Shell.Stream

/-!
# Input lines

A line that is read for some parameters is cut into as many fields. The last parameter gets all that is
left. A backslash quotes the character after it, and joins lines. There are as many fields as
parameters (`inputFields_length`).
-/

namespace GoAssist.Shell

/-- A line at the beginning of a text: its marks, how many characters it takes, and whether it was
ended. The fuel is the length of the text. -/
def inputLine (isRaw : Bool) : (fuel : Nat) → Text → List Mark × Nat × Bool
  | 0, _ => ([], 0, false)
  | _, [] => ([], 0, false)
  | fuel + 1, c :: rest =>
    if c = '\n' then ([], 1, true)
    else if c = '\\' ∧ !isRaw then
      match rest with
      | [] => ([], 1, false)
      | '\n' :: rest =>
        let (marks, size, ended) := inputLine isRaw fuel rest
        (marks, size + 2, ended)
      | next :: rest =>
        let (marks, size, ended) := inputLine isRaw fuel rest
        (⟨next, true⟩ :: marks, size + 2, ended)
    else
      let (marks, size, ended) := inputLine isRaw fuel rest
      if c = '\x00' then (marks, size + 1, ended) else (⟨c, false⟩ :: marks, size + 1, ended)

/-- Whether a mark separates fields. -/
def Mark.isSeparator (separators : Text) (mark : Mark) : Bool :=
  !mark.quoted && separators.contains mark.char

/-- Whether a mark is a blank between fields. -/
def Mark.isBlank (separators : Text) (mark : Mark) : Bool :=
  mark.isSeparator separators && usualSeparators.contains mark.char

/-- What follows the separators behind a field. -/
def behindSeparator (separators : Text) (marks : List Mark) : List Mark :=
  match marks.dropWhile (Mark.isBlank separators) with
  | [] => []
  | mark :: rest =>
    if mark.isSeparator separators then rest.dropWhile (Mark.isBlank separators)
    else mark :: rest

/-- The fields of a line for so many parameters. -/
def inputFields (separators : Text) : (count : Nat) → List Mark → List Text
  | 0, _ => []
  | count + 1, marks =>
    let marks := marks.dropWhile (Mark.isBlank separators)
    let field := marks.takeWhile fun mark => !mark.isSeparator separators
    let rest := behindSeparator separators (marks.drop field.length)
    let all :=
      if count = 0 ∧ rest ≠ [] then (marks.reverse.dropWhile (Mark.isBlank separators)).reverse
      else field
    all.map Mark.char :: inputFields separators count rest

/-- There is a field for each parameter. -/
theorem inputFields_length (separators : Text) (count : Nat) (marks : List Mark) :
    (inputFields separators count marks).length = count := by
  induction count generalizing marks with
  | zero => rfl
  | succ count ih => simp [inputFields, ih]

end GoAssist.Shell
