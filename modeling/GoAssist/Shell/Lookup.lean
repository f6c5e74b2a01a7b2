import GoAssist.Shell.Parser
import GoAssist.Shell.Stream
import GoAssist.Text.Pieces

/-!
# What the name of a command leads to

A command is a word with a meaning of its own, a function, a command of the shell, or a program in a
directory of the search path. No name is both a special command and another one.
-/

namespace GoAssist.Shell

/-- The commands of the shell that end it if they cannot be carried out. -/
def specialNames : List String :=
  [".", ":", "break", "continue", "eval", "exec", "exit", "export", "local", "readonly", "return",
   "set", "shift", "times", "trap", "unset"]

/-- The other commands of the shell. -/
def commonNames : List String :=
  ["[", "alias", "bg", "cd", "chdir", "command", "echo", "false", "fg", "getopts", "hash", "jobs",
   "kill", "printf", "pwd", "read", "test", "true", "type", "ulimit", "umask", "unalias", "wait"]

/-- The commands of the shell whose arguments may be assignments. -/
def assigningNames : List String :=
  ["alias", "export", "local", "readonly"]

namespace Run

/-- The paths at which a program of a name may stand. -/
def candidates (searchPath name : Text) : List Text :=
  (pieces ':' searchPath).map fun directory =>
    if directory.isEmpty then name
    else if directory.getLast? = some '/' then directory ++ name
    else directory ++ ['/'] ++ name

/-- The first path among some at which a file stands, which may be run if it is to be a program. -/
def firstFile (isProgram : Bool) (paths : List Text) : Run (Option Text) := do
  for path in paths do
    match ← find path with
    | .ok (_, .file _ executable) => if executable || !isProgram then return some path
    | _ => pure ()
  return none

/-- The path of a program. -/
def programPath (searchPath name : Text) : Run (Option Text) :=
  if name.contains '/' then do
    match ← find name with
    | .ok _ => return some name
    | .error _ => return none
  else firstFile true (candidates searchPath name)

/-- A text in single quotes. -/
def quotedText (text : Text) : Text :=
  ['\''] ++ (text.flatMap fun c => if c == '\'' then "'\"'\"'".toList else [c]) ++ ['\'']

/-- What a name leads to, in words, or as it would be called if `briefly`; none if it leads to
nothing. -/
def describe (briefly : Bool) (searchPath name : Text) : Run (Option Text) := do
  let process ← process
  let said (words : String) : Option Text :=
    some (if briefly then name else name ++ words.toList)
  match process.aliases.lookup name with
  | some meaning =>
    if briefly then
      return some ("alias ".toList ++ name ++ ['='] ++ quotedText meaning)
    else return some (name ++ " is an alias for ".toList ++ meaning)
  | none =>
    let text := String.ofList name
    if keywords.contains text then return said " is a shell keyword"
    else if (process.functions.lookup name).isSome then return said " is a shell function"
    else if specialNames.contains text then return said " is a special shell builtin"
    else if commonNames.contains text then return said " is a shell builtin"
    else
      match ← programPath searchPath name with
      | some path => return some (if briefly then path else name ++ " is ".toList ++ path)
      | none => return none

end Run

end GoAssist.Shell
