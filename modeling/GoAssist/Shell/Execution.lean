import GoAssist.Shell.Program

/-!
# Starting programs

A file is run by the machine, or by the program that its first line names. That program may be named in
the same way again, a few times. A file that begins in neither way cannot be run by the machine, but a
shell takes it for a script.
-/

namespace GoAssist.Shell

/-- Why a program cannot be started. -/
inductive StartError where
  /-- It is not there. -/
  | missing
  /-- It may not be run. -/
  | refused
  /-- It is not written as a program. -/
  | noFormat
  /-- Its path, or the way from one program to the next, is too long. -/
  | tooLong
  deriving DecidableEq, Repr

/-- How many bytes of a file are looked at for its first line. -/
def headSize : Nat := 256

/-- Whether a character is a blank in the first line of a script. -/
def isHeadBlank (c : Char) : Bool :=
  c == ' ' || c == '\t'

/-- The path and argument after the mark of a script, if a path can be read. A path has to end within
the bytes that are looked at. -/
def interpreter? (content : Text) : Option (Text × Option Text) :=
  let head := content.take headSize ++ List.replicate (headSize - content.length) '\x00'
  let isBreak (c : Char) : Bool := isHeadBlank c || c == '\x00'
  let line := (head.drop 2).takeWhile (· != '\n')
  let isWhole :=
    line.length + 2 < headSize || (line.dropWhile isHeadBlank).any isBreak
  let line := (line.take (headSize - 3)).reverse.dropWhile isHeadBlank |>.reverse
  let line := line.dropWhile isHeadBlank
  if !isWhole || line.isEmpty then none
  else
    let path := line.takeWhile fun c => !isBreak c
    let rest := (line.drop path.length)
    let argument := (rest.dropWhile isHeadBlank).takeWhile (· != '\x00')
    some (path, if argument.isEmpty then none else some argument)

/-- The program that runs the file at a path, by its name and arguments. -/
def load (files : FileSystem) (working : Location) :
    (fuel : Nat) → Text → List Text → Except StartError (String × List Text)
  | 0, _, _ => .error .tooLong
  | fuel + 1, path, arguments =>
    match Bytes.toString? path with
    | none => .error .missing
    | some name =>
      match files.find working name with
      | .error .tooLong => .error .tooLong
      | .error _ => .error .missing
      | .ok (_, .file content true) =>
        match Program.name? content with
        | some program => .ok (program, arguments)
        | none =>
          let text := Bytes.ofByteArray (content.extract 0 headSize)
          if text.take 2 = ['#', '!'] then
            match interpreter? text with
            | none => .error .noFormat
            | some (interpreter, argument) =>
              if interpreter.isEmpty then .error .refused
              else load files working fuel interpreter
                ([interpreter] ++ argument.toList ++ [path] ++ arguments.drop 1)
          else .error .noFormat
      | .ok _ => .error .refused

/-- How often a program may be named by the first line of another. -/
def maxInterpreters : Nat := 5

namespace Run

/-! ## Shells -/

/-- The directories in which a shell looks programs up if nothing is said. -/
def usualSearchPath : String :=
  "/usr/local/sbin:/usr/local/bin:/usr/sbin:/usr/bin:/sbin:/bin"

/-- Makes the running program a new shell that knows the environment only. -/
def becomeShell (name : Text) : Run Unit := do
  let here ← Builtin.workingPath
  modifyProcess fun process =>
    let told := process.environment.filter fun entry => isName entry.1
    let usual : List (String × Text × Bool) :=
      [("PATH", usualSearchPath.toList, false)]
    let own : List (String × Text × Bool) :=
      [("IFS", usualSeparators, false), ("OPTIND", ['1'], false), ("PS1", "# ".toList, false),
       ("PS2", "> ".toList, false), ("PS4", "+ ".toList, false),
       ("PPID", (toString process.parent).toList, false), ("PWD", here, true)]
    let fresh : Process :=
      { process with
        root := process.id
        parameters := []
        functions := []
        aliases := []
        name := name
        arguments := []
        flags := []
        status := 0
        outputStatus := 0
        traps := process.traps.filter fun trap => trap.2.isEmpty
        trapStatus := none
        loops := 0
        calls := 0
        sources := 0
        locals := []
        jobs := []
        lastJob := none
        options := .start }
    let given (process : Process) (entries : List (String × Text × Bool)) : Process :=
      entries.foldl
        (fun process (name, value, isTold) => process.withValue name.toList value isTold) process
    let process := told.foldl
      (fun process (name, value) => process.withValue name value true) (given fresh usual)
    given process own

/-- Sets the options at the beginning of a shell's arguments. Gives the other arguments, and whether the
first of them is a script itself. The fuel is the number of arguments. -/
def takeShellFlags : (fuel : Nat) → List Text → Run (Bool × List Text)
  | 0, rest => return (false, rest)
  | _, [] => return (false, [])
  | fuel + 1, argument :: rest => do
    let isDone := argument = ['-'] ∨ argument = ['-', '-']
    if isDone then return (false, rest)
    match argument with
    | '-' :: letters =>
      let others := letters.filter fun c => c != 'c' && c != 'l'
      let rest ← Builtin.setFlags true others rest
      let (isScript, rest) ← takeShellFlags fuel rest
      return (isScript || letters.contains 'c', rest)
    | '+' :: letters => takeShellFlags fuel (← Builtin.setFlags false letters rest)
    | _ => return (false, argument :: rest)

/-- Runs a shell with its arguments, up to the status of its last command. -/
def shellBody (evaluate : Evaluator) (arguments : List Text) : Run Nat := do
  let (isScript, rest) ← takeShellFlags arguments.length arguments
  let setArguments (name : Option Text) (rest : List Text) : Run Unit :=
    modifyProcess fun process =>
      { process with name := name.getD process.name, arguments := rest }
  match isScript, rest with
  | true, [] => stop
  | true, script :: rest =>
    setArguments rest.head? (rest.drop 1)
    text evaluate false script
  | false, rest =>
    if rest.isEmpty || (← process).hasFlag 's' then
      setArguments none rest
      let script := (← readAll? 0).getD []
      text evaluate false script
    else
      let path := rest.headD []
      match ← find path with
      | .error _ => stop
      | .ok (location, _) =>
        setArguments (some path) (rest.drop 1)
        file evaluate false location

/-- Runs a shell to its end, in place of the running program. -/
def shell (evaluate : Evaluator) (arguments : List Text) : Run Nat := do
  becomeShell (arguments.headD [])
  let result ← attempt (shellBody evaluate (arguments.drop 1))
  let status ← endShell evaluate result
  modifyProcess fun process => { process with traps := [] }
  return status

/-! ## Programs -/

/-- How many bytes of a file without a format are looked at. -/
def sampleSize : Nat := 128

/-- Whether a character is not one of a script: a control character other than those that move the
place of writing. -/
def isForeign (c : Char) : Bool :=
  c.toNat < 9 || (16 ≤ c.toNat && c.toNat < 32 && c != '\x1b') || c == '\x7f'

/-- Whether the first line of a file without a format looks like one of a script. -/
def isScript (content : ByteArray) : Bool :=
  let sample := Bytes.ofByteArray (content.extract 0 sampleSize)
  !(sample.takeWhile (· != '\n')).any isForeign

/-- Whether the file at a path looks like a script. -/
def looksLikeScript (path : Text) : Run Bool := do
  match ← find path with
  | .ok (_, .file content _) => return isScript content
  | _ => return false

/-- Runs the first program among some paths that can be started, in place of the running one, or tells
the status for none. A file without a format is a script if it looks like one. -/
def firstProgram (start : String → List Text → Run Nat) (arguments : List Text) (failure : Nat) :
    List Text → Run (Except Nat Nat)
  | [] => return .error failure
  | path :: paths => do
    let files := (← world).files
    match load files (← process).working maxInterpreters path arguments with
    | .ok (program, arguments) => return .ok (← start program arguments)
    | .error .noFormat =>
      if ← looksLikeScript path then
        return .ok (← start "sh" ("/bin/sh".toList :: path :: arguments.drop 1))
      else firstProgram start arguments unfitStatus paths
    | .error .refused => firstProgram start arguments unfitStatus paths
    | .error _ => firstProgram start arguments failure paths

/-- The paths at which a command may stand as a program. -/
def programPaths (searchPath name : Text) : List Text :=
  if name.contains '/' then [name] else candidates searchPath name

/-- How the environment is changed for a program: what is taken away, and what is set. -/
structure EnvironmentChange where
  clears : Bool
  removed : List Text
  settings : List (Text × Text)
  command : List Text

/-- Reads what the arguments say of the environment; the fuel bounds their number. -/
def environmentChange? : (fuel : Nat) → List Text → Option EnvironmentChange
  | 0, _ => none
  | _, [] => some ⟨false, [], [], []⟩
  | fuel + 1, argument :: rest =>
    let isClearing := argument = ['-'] ∨ argument = ['-', 'i']
    if isClearing then
      (environmentChange? fuel rest).map fun change => { change with clears := true }
    else
      match argument with
      | ['-', '-'] => environmentChange? fuel rest
      | ['-', 'u'] =>
        match rest with
        | name :: rest =>
          (environmentChange? fuel rest).map fun change =>
            { change with removed := name :: change.removed }
        | [] => none
      | '-' :: 'S' :: words =>
        let (words, rest) :=
          if words.isEmpty then (rest.headD [], rest.drop 1) else (words, rest)
        let split := ((pieces ' ' words).flatMap (pieces '\t')).filter fun word => !word.isEmpty
        environmentChange? fuel (split ++ rest)
      | '-' :: _ => none
      | _ =>
        match Builtin.splitAssignment argument with
        | (name, some value) =>
          (environmentChange? fuel rest).map fun change =>
            { change with settings := (name, value) :: change.settings }
        | (_, none) => some ⟨false, [], [], argument :: rest⟩

/-- Runs a program in another environment, or shows the environment. -/
def environmentProgram (start : String → List Text → Run Nat) (arguments : List Text) :
    Run Nat := do
  match environmentChange? (arguments.flatten.length + arguments.length + 1) arguments with
  | none => return 125
  | some change =>
    modifyProcess fun process =>
      let told := if change.clears then [] else process.environment
      let told := told.filter fun entry => !change.removed.contains entry.1
      let process := { process with parameters := [] }
      (told.reverse ++ change.settings).foldl
        (fun process (name, value) => process.withValue name value true) process
    match change.command with
    | [] =>
      Builtin.sayLines ((← process).environment.map fun (name, value) => name ++ ['='] ++ value)
    | name :: _ =>
      let paths := programPaths (← process).searchPath name
      match ← firstProgram start change.command missingStatus paths with
      | .ok status => return status
      | .error status => return status

/-- Runs a program by its name, in place of the running one. An environment may be changed so often. -/
def startProgram (evaluate : Evaluator) : (fuel : Nat) → String → List Text → Run Nat
  | 0, _, _ => throw .exhausted
  | fuel + 1, program, arguments =>
    if Program.shellNames.contains program then shell evaluate arguments
    else if program = Program.environmentName then
      environmentProgram (startProgram evaluate fuel) (arguments.drop 1)
    else
      match Program.byName? program with
      | some action => action (arguments.drop 1)
      | none => return missingStatus

/-- How often a program may run another in a changed environment. -/
def maxEnvironments : Nat := 100

/-- Becomes another program, or tells the status if there is none that can be started. -/
def execute (evaluate : Evaluator) (arguments paths : List Text) : Run (Except Nat Nat) :=
  firstProgram (startProgram evaluate maxEnvironments) arguments missingStatus paths

/-- Where the program of a command is looked up: at the first path where one stands, and behind it. -/
def commandPaths (searchPath name : Text) : Run (List Text) := do
  let paths := programPaths searchPath name
  match ← programPath searchPath name with
  | some found => return paths.dropWhile (· != found)
  | none => return []

end Run

end GoAssist.Shell
