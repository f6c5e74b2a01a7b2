import GoAssist.Text.Pieces

/-!
# Paths

A path is a text whose parts stand between slashes. Empty parts say nothing, one dot stays where it
is and two dots go up. A slash at the end asks for a directory, as a dot there would.
-/

namespace GoAssist

/-- One step along a path. -/
inductive Component where
  /-- Stay in the directory. -/
  | current
  /-- Go to the directory above. -/
  | parent
  /-- Go to the entry of a name. -/
  | name (text : String)
  deriving DecidableEq, Repr, Inhabited

namespace Path

/-- The step that a part stands for; an empty part stands for none. -/
def component? : List Char → Option Component
  | [] => none
  | ['.'] => some .current
  | ['.', '.'] => some .parent
  | part => some (.name (String.ofList part))

/-- Whether a path begins at the root. -/
def isAbsolute (path : String) : Bool :=
  path.toList.head? == some '/'

/-- The steps along a path. -/
def components (path : String) : List Component :=
  let steps := (pieces '/' path.toList).filterMap component?
  if path.toList.getLast? = some '/' ∧ steps ≠ [] then steps ++ [.current] else steps

/-- A backwards text without what says nothing at its end: slashes, and dots that stay where they are.
A dot that is all there is counts where `keepsDot`. -/
def dropIdle (keepsDot : Bool) : List Char → List Char
  | '/' :: rest => dropIdle keepsDot rest
  | '.' :: '/' :: rest => dropIdle keepsDot rest
  | ['.'] => if keepsDot then ['.'] else []
  | text => text

/-- The path of the directory that holds the last entry of a path; none for the root and the empty
path. -/
def parent? (path : String) : Option String :=
  let start := if isAbsolute path then ['/'] else []
  let entries := dropIdle (!isAbsolute path) (path.toList.drop start.length).reverse
  if entries.isEmpty then none
  else
    let above := dropIdle (!isAbsolute path) (entries.dropWhile (· != '/'))
    some (String.ofList (start ++ above.reverse))

/-- An entry of a directory. No slash is added after one. -/
def join (directory entry : String) : String :=
  if directory.isEmpty then entry
  else if directory.toList.getLast? = some '/' then directory ++ entry
  else directory ++ "/" ++ entry

end Path

end GoAssist
