import GoAssist.Shell.Condition
import GoAssist.Shell.Expansion
import GoAssist.Shell.Format
import GoAssist.Shell.Input
import GoAssist.Shell.Lookup
import GoAssist.Shell.Signal

/-!
# Commands of the shell

The commands that the shell carries out itself and that run no other command: they change its
parameters, options and directory, print, test and read. What cannot be carried out stops the command,
and ends the shell if the command is a special one.
-/

namespace GoAssist.Shell.Builtin

open Run

/-- Prints a text; the status tells whether that was possible. -/
def say (text : Text) : Run Nat := do
  if text.isEmpty then return 0
  return if ← write 1 text then 0 else 1

/-- Prints lines. -/
def sayLines (lines : List Text) : Run Nat :=
  say (lines.flatMap fun line => line ++ ['\n'])

/-- The letters of the options before other arguments, and those; a letter that is not allowed stops
the command. -/
def options (allowed : String) : List Text → Run (List Char × List Text)
  | [] => return ([], [])
  | ['-', '-'] :: rest => return ([], rest)
  | ('-' :: letter :: letters) :: rest => do
    if (letter :: letters).any fun c => !allowed.toList.contains c then stop
    let (others, rest) ← options allowed rest
    return (letter :: letters ++ others, rest)
  | rest => return ([], rest)

/-- A count among arguments; what is none stops the command. -/
def count (word : Text) : Run Nat := do
  match Number.natural? word with
  | some n => return n
  | none => stop

/-! ## Conditions -/

/-- What a condition asks about the file at a path. -/
def factsOf (files : FileSystem) (working : Location) (path : Text) : Option Condition.Facts :=
  match Bytes.toString? path with
  | none => none
  | some name =>
    match files.find working name with
    | .ok (_, .directory) => some ⟨true, false, false, false⟩
    | .ok (_, .file content executable) => some ⟨false, false, executable, content.isEmpty⟩
    | .ok (_, .sink) => some ⟨false, true, false, true⟩
    | .error _ => none

/-- Whether two paths lead to the same place. -/
def isSamePlace (files : FileSystem) (working : Location) (left right : Text) : Bool :=
  match Bytes.toString? left, Bytes.toString? right with
  | some left, some right =>
    match files.find working left, files.find working right with
    | .ok (one, _), .ok (other, _) => one == other
    | _, _ => false
  | _, _ => false

/-- Tests a condition. -/
def test (words : List Text) : Run Nat := do
  let files := (← world).files
  let working := (← process).working
  match Condition.holds? (factsOf files working) (isSamePlace files working) words with
  | some holds => return if holds then 0 else 1
  | none => stop

/-- Tests a condition that ends with a bracket. -/
def bracket (words : List Text) : Run Nat := do
  match words.getLast? with
  | some (']' :: _) => test words.dropLast
  | _ => stop

/-! ## Directories -/

/-- The path of the directory in which the shell works. -/
def workingPath : Run Text :=
  return Bytes.ofString (← process).working.toPath

/-- Goes to a directory; false if there is none. -/
def enter (path : Text) : Run Bool := do
  match ← find path with
  | .ok (location, .directory) =>
    let before ← workingPath
    modifyProcess fun process => { process with working := location }
    setParameter "OLDPWD".toList before true
    setParameter "PWD".toList (← workingPath) true
    return true
  | _ => return false

/-- Goes to the directory that is asked for. -/
def changeDirectory (arguments : List Text) : Run Nat := do
  let (_, rest) ← options "LP" arguments
  let process ← process
  let valueOf (name : String) : Text := (process.parameter? name.toList).getD []
  let (path, shows) :=
    match rest with
    | [] => (valueOf "HOME", false)
    | ['-'] :: _ => (valueOf "OLDPWD", true)
    | path :: _ => (path, false)
  if path.isEmpty then return 0
  let isSearched :=
    path.head? != some '/' && path.head? != some '.' && !(valueOf "CDPATH").isEmpty
  let places := if isSearched then candidates (valueOf "CDPATH") path ++ [path] else [path]
  for place in places do
    if ← enter place then
      if shows || place != path then return ← sayLines [← workingPath]
      else return 0
  stop

/-- Prints the directory in which the shell works. -/
def printDirectory (arguments : List Text) : Run Nat := do
  let _ ← options "LP" arguments
  sayLines [← workingPath]

/-! ## Parameters -/

/-- An argument that may be an assignment: a name, and a value if there is one. -/
def splitAssignment (argument : Text) : Text × Option Text :=
  let name := argument.takeWhile (· != '=')
  (name, if name.length < argument.length then some (argument.drop (name.length + 1)) else none)

/-- Lists parameters as commands that would set them. -/
def listParameters (command : String) (isListed : Parameter → Bool) : Run Nat := do
  let shown := (← process).parameters.filter fun (_, parameter) => isListed parameter
  let shown := shown.mergeSort fun a b => !decide (b.1 < a.1)
  sayLines (shown.map fun (name, parameter) =>
    command.toList ++ name ++
      match parameter.value with
      | some value => ['='] ++ quotedText value
      | none => [])

/-- Changes how parameters stand, and gives them values. -/
def declare (arguments : List Text) (change : Parameter → Parameter) : Run Nat := do
  for argument in arguments do
    let (name, value) := splitAssignment argument
    if !isName name then stop
    match value with
    | some value => setParameter name value false
    | none => pure ()
    modifyProcess fun process =>
      let parameter := (process.parameters.lookup name).getD ⟨none, false, false⟩
      process.withParameter name (some (change parameter))
  return 0

/-- Exports parameters. -/
def exportParameters (arguments : List Text) : Run Nat := do
  let (letters, rest) ← options "p" arguments
  if letters.isEmpty && !rest.isEmpty then
    declare rest fun parameter => { parameter with isExported := true }
  else listParameters "export " Parameter.isExported

/-- Makes parameters keep their values. -/
def fixParameters (arguments : List Text) : Run Nat := do
  let (letters, rest) ← options "p" arguments
  if letters.isEmpty && !rest.isEmpty then
    declare rest fun parameter => { parameter with isFixed := true }
  else listParameters "readonly " Parameter.isFixed

/-- Takes parameters or functions away. -/
def unset (arguments : List Text) : Run Nat := do
  let (letters, names) ← options "vf" arguments
  for name in names do
    if letters.contains 'f' then
      modifyProcess fun process => { process with
        functions := process.functions.filter fun entry => entry.1 != name }
    else
      if !isName name || (← process).isFixed name then stop
      beforeSetting name []
      modifyProcess fun process => process.withParameter name none
  return 0

/-- The name under which a function keeps the options of the shell. -/
def flagsName : Text := ['-']

/-- Keeps a parameter as it is, to have it back after the running function. -/
def keep (name : Text) : Run Unit :=
  modifyProcess fun process =>
    match process.locals with
    | [] => process
    | frame :: frames =>
      if (frame.lookup name).isSome then process
      else
        let before : Option Parameter :=
          if name = flagsName then some ⟨some process.flags, false, false⟩
          else process.parameters.lookup name
        { process with locals := ((name, before) :: frame) :: frames }

/-- Makes parameters of a function its own. -/
def localParameters (arguments : List Text) : Run Nat := do
  if (← process).locals.isEmpty then stop
  for argument in arguments do
    let (name, value) := splitAssignment argument
    if argument = flagsName then keep flagsName
    else
      if !isName name then stop
      keep name
      match value with
      | some value => setParameter name value false
      | none => pure ()
  return 0

/-- Runs a computation in which parameters may be kept, and then has those back. -/
def withLocals {α : Type} (action : Run α) : Run α := do
  modifyProcess fun process => { process with locals := [] :: process.locals }
  followedBy action do
    modifyProcess fun process =>
      let restored := (process.locals.headD []).foldl
        (fun process (name, before) =>
          if name = flagsName then
            { process with flags := (before.bind Parameter.value).getD [] }
          else process.withParameter name before)
        process
      { restored with locals := process.locals.drop 1 }

/-- Passes arguments. -/
def shift (arguments : List Text) : Run Nat := do
  let size ← match arguments with
    | [] => pure 1
    | word :: _ => count word
  if (← process).arguments.length < size then stop
  modifyProcess fun process => { process with
    arguments := process.arguments.drop size, options := .start }
  return 0

/-! ## Options -/

/-- The names of the options. -/
def flagNames : List (String × Char) :=
  [("errexit", 'e'), ("noglob", 'f'), ("ignoreeof", 'I'), ("interactive", 'i'), ("monitor", 'm'),
   ("noexec", 'n'), ("stdin", 's'), ("xtrace", 'x'), ("verbose", 'v'), ("vi", 'V'), ("emacs", 'E'),
   ("noclobber", 'C'), ("allexport", 'a'), ("notify", 'b'), ("nounset", 'u'), ("privileged", 'p'),
   ("nolog", 'L'), ("debug", 'D')]

/-- Sets an option or takes it away. -/
def setFlag (isSet : Bool) (letter : Char) : Run Unit := do
  if !flagNames.any (fun entry => entry.2 == letter) || letter == 'L' || letter == 'D' then stop
  modifyProcess fun process =>
    let others := process.flags.filter (· != letter)
    { process with flags := if isSet then letter :: others else others }

/-- Sets an option that is given by its name, or shows all options if there is no name. -/
def setNamedFlag (isSet : Bool) (name : Option Text) : Run Unit := do
  match name with
  | some name =>
    match flagNames.lookup (String.ofList name) with
    | some 'L' => return
    | some 'D' => return
    | some letter => setFlag isSet letter
    | none => stop
  | none =>
    let process ← process
    let lines := flagNames.map fun (name, letter) =>
      let isOn := process.hasFlag letter
      if isSet then
        name.toList ++ List.replicate (16 - name.length) ' ' ++ (if isOn then "on" else "off").toList
      else (if isOn then "set -o " else "set +o ").toList ++ name.toList
    let title := if isSet then ["Current option settings".toList] else []
    let _ ← sayLines (title ++ lines)

/-- The letters of an argument that sets options. An `o` takes the next argument as a name. -/
def setFlags (isSet : Bool) : (letters : Text) → (rest : List Text) → Run (List Text)
  | [], rest => return rest
  | 'o' :: letters, rest => do
    setNamedFlag isSet rest.head?
    setFlags isSet letters (rest.drop 1)
  | letter :: letters, rest => do
    setFlag isSet letter
    setFlags isSet letters rest

/-- Sets the options at the beginning of arguments. Gives the other arguments, if they are to be
arguments of the shell. The fuel is the number of arguments. -/
def takeFlags : (fuel : Nat) → List Text → Run (Option (List Text))
  | 0, _ => return none
  | _, [] => return none
  | fuel + 1, argument :: rest => do
    match argument with
    | ['-'] =>
      modifyProcess fun process => { process with
        flags := process.flags.filter fun c => c != 'x' && c != 'v' }
      return if rest.isEmpty then none else some rest
    | ['-', '-'] => return some rest
    | '-' :: letters => takeFlags fuel (← setFlags true letters rest)
    | '+' :: letters => takeFlags fuel (← setFlags false letters rest)
    | _ => return some (argument :: rest)

/-- Sets options and arguments, or lists the parameters. -/
def set (arguments : List Text) : Run Nat := do
  if arguments.isEmpty then listParameters "" fun parameter => parameter.value.isSome
  else
    match ← takeFlags arguments.length arguments with
    | some rest =>
      modifyProcess fun process => { process with arguments := rest, options := .start }
      return 0
    | none => return 0

/-- Gives a value to the parameter that a word names. What follows an equals sign in it is left out. -/
def setNamed (word value : Text) : Run Unit := do
  let name := word.takeWhile (· != '=')
  if !isName name then stop
  setParameter name value false

/-- What follows a letter among those that options may be; a colon after a letter belongs to it. -/
def optionTail? (letter : Char) : Text → Option Text
  | [] => none
  | c :: ':' :: rest => if c = letter then some (':' :: rest) else optionTail? letter rest
  | c :: rest => if c = letter then some rest else optionTail? letter rest

/-- What reading a letter of options gives. -/
structure OptionStep where
  value : Char
  /-- What is known of the argument of the option: nothing new, or that it is there or not. -/
  argument : Option (Option Text)
  /-- Where to go on. -/
  place : OptionPlace
  isDone : Bool

/-- The letters of a word from a place on that are still to be read. -/
def lettersAt (place : OptionPlace) (words : List Text) : Text :=
  if place.index ≤ 1 ∨ place.offset = 0 then []
  else (words.getD (place.index - 2) []).drop place.offset

/-- Reads the next letter of options, of which those in `known` are allowed. -/
def optionStep (known : Text) (words : List Text) (place : OptionPlace) : OptionStep :=
  let isQuiet := known.head? == some ':'
  let refusal (letter : Char) : Option (Option Text) :=
    some (if isQuiet then some [letter] else none)
  let letters := lettersAt place words
  let isNew := letters.isEmpty
  let word := words.getD (place.index - (if isNew then 1 else 2)) []
  let index := if isNew then place.index + 1 else place.index
  let letters := if isNew then word.drop 1 else letters
  let isOption := !isNew || word.head? == some '-'
  match letters with
  | [] => ⟨'?', none, ⟨place.index, 0⟩, true⟩
  | letter :: rest =>
    if !isOption then ⟨'?', none, ⟨place.index, 0⟩, true⟩
    else if isNew && word = ['-', '-'] then ⟨'?', none, ⟨index, 0⟩, true⟩
    else
      let here : OptionPlace := ⟨index, word.length - rest.length⟩
      match optionTail? letter known with
      | none => ⟨'?', refusal letter, here, false⟩
      | some (':' :: _) =>
        if !rest.isEmpty then ⟨letter, some (some rest), ⟨index, 0⟩, false⟩
        else
          match words[index - 1]? with
          | some value => ⟨letter, some (some value), ⟨index + 1, 0⟩, false⟩
          | none => ⟨if isQuiet then ':' else '?', refusal letter, ⟨index, 0⟩, false⟩
      | some _ => ⟨letter, some (some []), here, false⟩

/-- Reads the next letter of options from arguments into a parameter. -/
def readOption (arguments : List Text) : Run Nat := do
  match arguments with
  | known :: name :: rest =>
    let process ← process
    let words := if rest.isEmpty then process.arguments else rest
    let place := process.options
    let step := optionStep known words (if words.length + 1 < place.index then .start else place)
    match step.argument with
    | some (some value) => setParameter "OPTARG".toList value false
    | some none =>
      modifyProcess fun process => process.withParameter "OPTARG".toList none
    | none => pure ()
    setParameter "OPTIND".toList (toString step.place.index).toList false
    modifyProcess fun process => { process with options := .start }
    setNamed name [step.value]
    modifyProcess fun process => { process with options := step.place }
    return if step.isDone then 1 else 0
  | _ => stop

/-! ## Input -/

/-- The options of a command that reads a line: whether backslashes quote nothing, and the names. -/
def inputOptions : List Text → Run (Bool × List Text)
  | ['-', '-'] :: rest => return (false, rest)
  | ['-', 'r'] :: rest => return (true, (← inputOptions rest).2)
  | ['-', 'p'] :: _ :: rest => inputOptions rest
  | ['-', 'r', 'p'] :: _ :: rest => return (true, (← inputOptions rest).2)
  | ('-' :: 'p' :: _ :: _) :: rest => inputOptions rest
  | ('-' :: _ :: _) :: _ => stop
  | rest => return (false, rest)

/-- Reads a line into parameters. -/
def read (arguments : List Text) : Run Nat := do
  let (isRaw, names) ← inputOptions arguments
  if names.isEmpty then stop
  match ← unread? 0 with
  | none =>
    for name in names do
      setNamed name []
    return 1
  | some text =>
    let (marks, size, ended) := inputLine isRaw text.length text
    skip 0 size
    let values := inputFields (← separators) names.length marks
    for (name, value) in names.zip values do
      setNamed name value
    return if ended then 0 else 1

/-! ## Names of commands -/

/-- Defines aliases, or shows them. -/
def defineAliases (arguments : List Text) : Run Nat := do
  let written (name meaning : Text) : Text := name ++ ['='] ++ quotedText meaning
  if arguments.isEmpty then
    sayLines ((← process).aliases.map fun (name, meaning) => written name meaning)
  else
    let mut status := 0
    for argument in arguments do
      match splitAssignment argument with
      | (name, some meaning) =>
        modifyProcess fun process => { process with
          aliases := (name, meaning) :: process.aliases.filter fun entry => entry.1 != name }
      | (name, none) =>
        match (← process).aliases.lookup name with
        | some meaning => let _ ← sayLines [written name meaning]
        | none => status := 1
    return status

/-- Takes aliases away. -/
def removeAliases (arguments : List Text) : Run Nat := do
  let (letters, names) ← options "a" arguments
  if letters.contains 'a' then
    modifyProcess fun process => { process with aliases := [] }
    return 0
  let mut status := 0
  for name in names do
    if ((← process).aliases.lookup name).isNone then status := 1
    modifyProcess fun process => { process with
      aliases := process.aliases.filter fun entry => entry.1 != name }
  return status

/-- Says what names lead to. -/
def sayKinds (briefly : Bool) (searchPath : Text) (names : List Text) : Run Nat := do
  let mut status := 0
  for name in names do
    match ← describe briefly searchPath name with
    | some words => let _ ← sayLines [words]
    | none =>
      if !briefly then let _ ← sayLines [name ++ ": not found".toList]
      status := missingStatus
  return status

/-- Looks programs up, to find them later. -/
def hash (arguments : List Text) : Run Nat := do
  let (_, names) ← options "rv" arguments
  let mut status := 0
  for name in names do
    if (← describe true (← process).searchPath name).isNone then status := 1
  return status

/-! ## Signals and programs -/

/-- Says what is to be done on signals, or shows it. -/
def trap (arguments : List Text) : Run Nat := do
  let (_, words) ← options "" arguments
  let setTraps (action : Option Text) (signals : List Text) : Run Nat := do
    for word in signals do
      match Signal.ofText? 0 word with
      | none => return 1
      | some signal =>
        modifyProcess fun process =>
          let others := process.traps.filter fun entry => entry.1 != signal
          { process with
            traps := match action with
              | some command => (signal, command) :: others
              | none => others }
    return 0
  match words with
  | [] =>
    let shown := (← process).traps.mergeSort fun a b => decide (a.1 ≤ b.1)
    sayLines (shown.map fun (signal, command) =>
      "trap -- ".toList ++ quotedText command ++ [' '] ++ (Signal.name signal).toList)
  | [word] => setTraps none [word]
  | action :: signals =>
    if !action.isEmpty && action.all Char.isDigit && (Signal.ofText? 0 action).isSome then
      setTraps none words
    else setTraps (if action = ['-'] then none else some action) signals

/-- Sends a signal to programs. -/
def send (signal : Nat) (targets : List Text) : Run Nat := do
  let mut status := 0
  for target in targets do
    let isGroup := target.head? == some '-'
    let id ← count (if isGroup then target.drop 1 else target)
    let world ← world
    if !isGroup && 0 < id && id ≤ world.lastProcess then
      if signal != 0 then
        modifyWorld fun world => { world with signals := world.signals ++ [(id, signal)] }
    else status := 1
  return status

/-- Sends signals to programs, or shows their names. -/
def kill (arguments : List Text) : Run Nat := do
  match arguments with
  | [] => stop
  | ['-', 'l'] :: rest =>
    match rest with
    | [] => sayLines ((List.range Signal.count).map fun signal =>
        if signal = 0 then ['0'] else (Signal.name signal).toList)
    | word :: _ =>
      let n ← count word
      let signal := if n > 128 then n - 128 else n
      if 0 < signal ∧ signal < Signal.count then sayLines [(Signal.name signal).toList] else stop
  | ['-', 's'] :: name :: targets =>
    match Signal.ofText? 1 name with
    | some signal => if targets.isEmpty then stop else send signal targets
    | none => stop
  | ['-', '-'] :: targets => if targets.isEmpty then stop else send Signal.terminate targets
  | ('-' :: name) :: targets =>
    let name := if name.head? == some 's' && name.length > 1 then name.drop 1 else name
    match Signal.ofText? 1 name with
    | some signal => if targets.isEmpty then stop else send signal targets
    | none => stop
  | targets => send Signal.terminate targets

/-- Waits for programs in the background. -/
def wait (arguments : List Text) : Run Nat := do
  let (_, targets) ← options "" arguments
  let mut status := 0
  for target in targets do
    let id ← count target
    status := ((← process).jobs.lookup id).getD missingStatus
  return status

/-- Shows or sets the permissions that new files do not get. -/
def umask (arguments : List Text) : Run Nat := do
  let (letters, words) ← options "S" arguments
  let mask := (← process).mask
  match words with
  | [] =>
    if letters.isEmpty then
      let digits := Nat.toDigits 8 mask
      sayLines [List.replicate (4 - digits.length) '0' ++ digits]
    else
      let rights (shift : Nat) : Text :=
        [(4, 'r'), (2, 'w'), (1, 'x')].filterMap fun (bit, letter) =>
          if mask / shift % 8 / bit % 2 = 0 then some letter else none
      sayLines ["u=".toList ++ rights 64 ++ ",g=".toList ++ rights 8 ++ ",o=".toList ++ rights 1]
  | word :: _ =>
    if word.head?.any Char.isDigit then
      if !word.all fun c => '0' ≤ c && c ≤ '7' then stop
      modifyProcess fun process => { process with mask := numberOf 8 word % 512 }
      return 0
    else if word.all fun c => "ugoa+-=rwx,".toList.contains c then return 0
    else stop

/-- Leaves so many loops. -/
def leaveLoops (goal : Nat → Goal) (arguments : List Text) : Run Nat := do
  let wanted ← match arguments with
    | [] => pure 1
    | word :: _ => count word
  if wanted = 0 then stop
  let size := min wanted (← process).loops
  if size = 0 then return 0
  throw (.leave (goal size) 0)

/-- Leaves a function or script. -/
def leaveBody (arguments : List Text) : Run Nat := do
  let process ← process
  match arguments with
  | [] => throw (.leave (.endOfBody false) (process.trapStatus.getD process.status))
  | word :: _ => throw (.leave (.endOfBody true) (← count word))

/-- Ends the shell. -/
def exit (arguments : List Text) : Run Nat := do
  let process ← process
  match arguments with
  | [] => setStatus (process.trapStatus.getD process.status)
  | word :: _ => setStatus (← count word)
  throw .exit

/-! ## Jobs and limits -/

/-- Shows the programs in the background. All of them have ended, so that there is nothing to show. -/
def jobs (arguments : List Text) : Run Nat := do
  match ← options "lp" arguments with
  | (_, []) => return 0
  | _ => stop

/-- Shows or sets a limit of what programs may use. Nothing that is limited is kept count of. -/
def limit (arguments : List Text) : Run Nat := do
  let unlimited := "unlimited".toList
  match ← options "HSatfdsmcpnlvwr" arguments with
  | (letters, []) => if letters.contains 'a' then return 0 else sayLines [unlimited]
  | (_, value :: _) => if value = unlimited ∨ value.all Char.isDigit then return 0 else stop

/-! ## All of them -/

/-- The command of the shell that a name leads to, unless it runs other commands. -/
def plainCommand? (name : Text) : Option (List Text → Run Nat) :=
  match String.ofList name with
  | ":" => some fun _ => return 0
  | "true" => some fun _ => return 0
  | "false" => some fun _ => return 1
  | "echo" => some fun arguments => say (Format.echo arguments)
  | "printf" => some fun arguments => do
    let (_, arguments) ← options "" arguments
    match arguments with
    | [] => stop
    | format :: arguments =>
      let written := Format.run format arguments
      let status ← say written.text
      if written.status = faultStatus then stop
      return max status written.status
  | "test" => some test
  | "[" => some bracket
  | "cd" => some changeDirectory
  | "chdir" => some changeDirectory
  | "pwd" => some printDirectory
  | "export" => some exportParameters
  | "readonly" => some fixParameters
  | "unset" => some unset
  | "local" => some localParameters
  | "shift" => some shift
  | "set" => some set
  | "getopts" => some readOption
  | "read" => some read
  | "alias" => some defineAliases
  | "unalias" => some removeAliases
  | "type" => some fun arguments => do
    sayKinds false (← process).searchPath arguments
  | "hash" => some hash
  | "trap" => some trap
  | "kill" => some kill
  | "wait" => some wait
  | "jobs" => some jobs
  | "fg" => some fun _ => stop
  | "bg" => some fun _ => stop
  | "umask" => some umask
  | "ulimit" => some limit
  | "times" => some fun _ =>
    let zeros := "0m0.000000s 0m0.000000s".toList
    sayLines [zeros, zeros]
  | "break" => some (leaveLoops .endOfLoops)
  | "continue" => some (leaveLoops .nextRound)
  | "return" => some leaveBody
  | "exit" => some exit
  | _ => none

end GoAssist.Shell.Builtin
