import GoAssist.Shell.Arithmetic
import GoAssist.Shell.Field
import GoAssist.Shell.Script

/-!
# Expansion of words

What the parts of a word stand for: values of parameters, what commands print, and numbers. A tilde
that begins a word stands for a user's directory. Quoted characters stand for themselves.
-/

namespace GoAssist.Shell

/-! ## Tildes -/

/-- The name between a tilde and the slash behind it; none if anything in it is quoted. -/
def tildeName (inAssignment : Bool) : List (Part × List Piece) → Option Text
  | [] => some []
  | (.char c false, _) :: rest =>
    if c = '/' ∨ (inAssignment ∧ c = ':') then some []
    else (tildeName inAssignment rest).map (c :: ·)
  | _ => none

/-- Puts directories in place of tildes. The first `passed` parts belong to a name that was read. -/
def withTildes (directory : Text → Option Text) (inAssignment : Bool) (passed : Nat)
    (isStart : Bool) : List (Part × List Piece) → List Piece
  | [] => []
  | (part, pieces) :: rest =>
    match passed with
    | passed + 1 => withTildes directory inAssignment passed false rest
    | 0 =>
      let isPlain (c : Char) : Bool :=
        match part with
        | .char d false => d == c
        | _ => false
      match if isStart && isPlain '~' then tildeName inAssignment rest else none with
      | some name =>
        match directory name with
        | some path =>
          piecesOf .quoted path ++ withTildes directory inAssignment name.length false rest
        | none => pieces ++ withTildes directory inAssignment 0 false rest
      | none =>
        pieces ++ withTildes directory inAssignment 0 (inAssignment && isPlain ':') rest

/-- The directory of a user; no name stands for the user who runs the program. -/
def userDirectory (home : Option Text) (name : Text) : Option Text :=
  if name.isEmpty then home
  else if name = "root".toList then some "/root".toList
  else none

/-- Whether a parameter has to have a value to be used. -/
def Form.needsValue : Form → Bool
  | .plain => true
  | .length => true
  | .dropFirst _ => true
  | .dropLast _ => true
  | _ => false

namespace Run

/-! ## Parameters -/

/-- The characters at which values are cut. -/
def separators : Run Text :=
  return ((← process).parameter? "IFS".toList).getD usualSeparators

/-- Whether a name stands for the list of arguments. -/
def isList (name : Text) : Bool :=
  name = ['@'] || name = ['*']

/-- The order in which letters of options are written. -/
def flagOrder : List Char := "pubaCEVvxsnmiIfe".toList

/-- The value of a parameter that does not stand for the list of arguments, if it has one. -/
def valueOf (name : Text) : Run (Option Text) := do
  let process ← process
  let number (n : Nat) : Option Text := some (toString n).toList
  match name with
  | ['#'] => return number process.arguments.length
  | ['?'] => return number process.status
  | ['$'] => return number process.root
  | ['-'] => return some (flagOrder.filter process.hasFlag)
  | ['!'] => return process.lastJob.bind number
  | _ =>
    if name.all Char.isDigit then
      match numberOf 10 name with
      | 0 => return some process.name
      | n + 1 => return process.arguments[n]?
    else return process.parameter? name

/-- The value of a parameter as one text. -/
def joinedValue (name : Text) : Run (Option Text) := do
  if isList name then
    let separator := (← separators).take 1
    return some (separator.intercalate (← process).arguments)
  else valueOf name

/-- Whether the members of a list stand apart in the place of its name. -/
def standsApart (name : Text) (quoted : Bool) : Bool :=
  isList name && !(quoted && name = ['*'])

/-- The value of a parameter of which something is to be cut off. -/
def wholeValue (name : Text) (quoted : Bool) : Run Text := do
  if standsApart name quoted then
    return [Glob.memberEnd].intercalate (← process).arguments
  else return (← joinedValue name).getD []

/-- The parts for what is left of a value. -/
def piecesOfMembers (quoted : Bool) (text : Text) : List Piece :=
  let kind : Kind := if quoted then .quoted else .value
  [Piece.gap].intercalate ((pieces Glob.memberEnd text).map (piecesOf kind))

/-- The parts for the value of a parameter. -/
def valuePieces (name : Text) (quoted : Bool) : Run (List Piece) := do
  let kind : Kind := if quoted then .quoted else .value
  if standsApart name quoted then
    let arguments := (← process).arguments
    return [Piece.gap].intercalate (arguments.map (piecesOf kind))
  else return piecesOf kind ((← joinedValue name).getD [])

/-- The text of an expanded word that is not cut. -/
def joinPieces (pieces : List Piece) : Run Text := do
  let separator := (← separators).take 1
  return pieces.flatMap fun piece =>
    match piece with
    | .char c _ => [c]
    | .gap => separator
    | .quotes => []

/-! ## What commands print -/

/-- A text without the line ends at its end. -/
def withoutLineEnds (text : Text) : Text :=
  (text.reverse.dropWhile (· == '\n')).reverse

/-- What a command prints. -/
def outputOf (evaluate : Evaluator) (body : Option Command) : Run Text := do
  match body with
  | none => return []
  | some command =>
    let number ← addOpenFile ⟨.pipe [], 0, false, true, false⟩
    let status ← asChild evaluate do
      setDescriptor 1 (some number)
      evaluate false command
    modifyProcess fun process => { process with outputStatus := status }
    match (← world).opened[number]? with
    | some ⟨.pipe content, _, _, _, _⟩ =>
      return withoutLineEnds (content.filter (· != '\x00'))
    | _ => return []

/-! ## Numbers -/

/-- The value of an arithmetic expression. Assignments in it are carried out. -/
def arithmetic (expression : Text) : Run Text := do
  let process ← process
  let lookup (name : Text) : Option Int64 :=
    Number.ofText? true ((process.parameter? name).getD [])
  match Arithmetic.evaluate lookup expression with
  | none => stop
  | some (result, assigned) =>
    for (name, value) in assigned do
      setParameter name (Number.toText value) false
    return Number.toText result

/-! ## Words -/

mutual

/-- Expands a part of a word. What stands in place of a value is cut like one unless it is quoted. -/
def expandPart (evaluate : Evaluator) (inPlace : Bool) : Part → Run (List Piece)
  | .char c quoted =>
    return [.char c (if quoted then .quoted else if inPlace then .value else .written)]
  | .quotes => return [.quotes]
  | .output body quoted => do
    let text ← outputOf evaluate body
    return piecesOf (if quoted then .quoted else .value) text
  | .arithmetic expression quoted => do
    let pieces ← expandParts evaluate false expression
    let text ← arithmetic (← joinPieces pieces.flatten)
    return piecesOf (if quoted then .quoted else .value) text
  | .parameter name form word quoted => do
    let value ← joinedValue name
    let isUnset (orEmpty : Bool) : Bool :=
      match value with
      | none => true
      | some text => orEmpty && text.isEmpty
    let inWord : Run (List Piece) := do
      let parts ← expandParts evaluate (!quoted) word
      let home := (← process).parameter? "HOME".toList
      return if quoted then parts.flatten
        else withTildes (userDirectory home) false 0 true (word.zip parts)
    if form.needsValue && value.isNone && (← process).hasFlag 'u' then stop
    match form with
    | .plain => valuePieces name quoted
    | .length =>
      return piecesOf (if quoted then .quoted else .value)
        (toString (value.getD []).length).toList
    | .default orEmpty => if isUnset orEmpty then inWord else valuePieces name quoted
    | .alternative orEmpty => if isUnset orEmpty then return [] else inWord
    | .demand orEmpty => if isUnset orEmpty then stop else valuePieces name quoted
    | .assign orEmpty =>
      if isUnset orEmpty then
        if !isName name then stop
        setParameter name (← joinPieces (← inWord)) false
      valuePieces name quoted
    | .dropFirst longest =>
      if value.isNone then valuePieces name quoted
      else
        let pattern := Glob.items (marksOf (← expandParts evaluate false word).flatten)
        return piecesOfMembers quoted (Glob.dropFirst longest pattern (← wholeValue name quoted))
    | .dropLast longest =>
      if value.isNone then valuePieces name quoted
      else
        let pattern := Glob.items (marksOf (← expandParts evaluate false word).flatten)
        return piecesOfMembers quoted (Glob.dropLast longest pattern (← wholeValue name quoted))
    | .bad => stop

/-- Expands the parts of a word, each for itself. -/
def expandParts (evaluate : Evaluator) (inPlace : Bool) : List Part → Run (List (List Piece))
  | [] => return []
  | part :: parts => do
    let first ← expandPart evaluate inPlace part
    return first :: (← expandParts evaluate inPlace parts)

end

/-- Expands a word with its tildes. -/
def expandWord (evaluate : Evaluator) (inAssignment : Bool) (word : List Part) :
    Run (List Piece) := do
  let parts ← expandParts evaluate false word
  let home := (← process).parameter? "HOME".toList
  return withTildes (userDirectory home) inAssignment 0 true (word.zip parts)

/-- The texts that a word stands for among the arguments of a command. -/
def expandFields (evaluate : Evaluator) (word : List Part) : Run (List Text) := do
  let pieces ← expandWord evaluate false word
  let process ← process
  let files := (← world).files
  return (fields (← separators) pieces).flatMap
    (fieldTexts files process.working (!process.hasFlag 'f'))

/-- The text that a word stands for where it is not cut. -/
def expandText (evaluate : Evaluator) (inAssignment : Bool) (word : List Part) : Run Text := do
  joinPieces (← expandWord evaluate inAssignment word)

/-- The pattern that a word stands for. -/
def expandPattern (evaluate : Evaluator) (word : List Part) : Run (List Glob.Item) := do
  return Glob.items (marksOf (← expandWord evaluate false word))

end Run

end GoAssist.Shell
