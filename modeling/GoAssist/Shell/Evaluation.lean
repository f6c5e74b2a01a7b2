import GoAssist.Shell.Execution
import GoAssist.Shell.Redirection

/-!
# Running commands

How a shell carries out each kind of command. A command gives a status; one that fails where nothing
asks for its status ends a shell that is to end on failures. The commands inside of others are run by
an evaluator, and the evaluator of all commands is the one that a bound on their depth gives. A shell
gives up when that bound is met.
-/

namespace GoAssist.Shell

/-- The commands in a row that one command stands for. -/
def Command.row : Command → List Command
  | .joined first .next second => first.row ++ [second]
  | command => [command]

/-- Whether a failure of a command may end the shell by itself. -/
def Command.mayEnd : Command → Bool
  | .simple _ _ _ => true
  | .pipeline _ => true
  | .background _ => true
  | .subshell _ => true
  | _ => false

namespace Run

/-! ## Loops -/

/-- What a round of a loop leads to: another round, or the status of the loop. -/
def afterRound (status : Nat) (result : Except Jump Nat) : Run (Nat ⊕ Nat) := do
  match result with
  | .ok status => return .inl status
  | .error (.leave (.endOfLoops size) _) =>
    if size ≤ 1 then return .inr status else throw (.leave (.endOfLoops (size - 1)) status)
  | .error (.leave (.nextRound size) _) =>
    if size ≤ 1 then return .inl status else throw (.leave (.nextRound (size - 1)) status)
  | .error jump => throw jump

/-- What the test of a loop leads to. One that leaves the body of a function or script and names no
status leaves it with the status of the loop so far. -/
def afterTest (status : Nat) (result : Except Jump Nat) : Run (Nat ⊕ Nat) := do
  match result with
  | .error (.leave (.endOfBody false) _) => throw (.leave (.endOfBody false) status)
  | result => afterRound status result

/-- The status that a jump carries, or another one. -/
def carried (status : Nat) : Except Jump Nat → Nat
  | .error (.leave _ other) => other
  | _ => status

/-- Runs something inside of a loop. -/
def insideLoop {α : Type} (action : Run α) : Run α := do
  modifyProcess fun process => { process with loops := process.loops + 1 }
  followedBy action (modifyProcess fun process => { process with loops := process.loops - 1 })

/-- Runs a loop that goes on while its test succeeds, or fails. -/
def loop (evaluate : Evaluator) (tested : Bool) (test : Command) (whileTrue : Bool)
    (body : Command) : Run Nat :=
  insideLoop (iterate
    (fun status => do
      let tried ← attempt (evaluate true test)
      match ← afterTest status tried with
      | .inr status => return .inr status
      | .inl outcome =>
        match tried with
        | .error _ => return .inl status
        | .ok _ =>
          if (outcome == 0) != whileTrue then return .inr status
          else
            let result ← attempt (evaluate tested body)
            afterRound (carried status result) result)
    maxRounds 0)

/-- Runs a command for each of some values. -/
def forEach (evaluate : Evaluator) (tested : Bool) (name : Text) (body : Command) :
    (values : List Text) → (status : Nat) → Run Nat
  | [], status => return status
  | value :: values, status => do
    setParameter name value false
    let result ← attempt (evaluate tested body)
    match ← afterRound (carried status result) result with
    | .inl status => forEach evaluate tested name body values status
    | .inr status => return status

/-! ## Choices -/

/-- Whether one of some patterns matches a text. -/
def matchesAny (evaluate : Evaluator) (subject : Text) : List (List Part) → Run Bool
  | [] => return false
  | pattern :: patterns => do
    if Glob.accepts (← expandPattern evaluate pattern) subject then return true
    else matchesAny evaluate subject patterns

/-- Runs the first arm of a choice that has a pattern for the subject. -/
def choose (evaluate : Evaluator) (tested : Bool) (subject : Text) :
    List (List (List Part) × Option Command) → Run Nat
  | [] => return 0
  | (patterns, body) :: arms => do
    if ← matchesAny evaluate subject patterns then
      match body with
      | some command => evaluate tested command
      | none => return 0
    else choose evaluate tested subject arms

/-! ## Pipelines and subshells -/

/-- Runs the stages of a pipeline, the first of which reads from the open file `input` if it is given.
The status is that of the last one. -/
def stages (evaluate : Evaluator) (tested : Bool) (input : Option Nat) : List Command → Run Nat
  | [] => return 0
  | [last] => asChild evaluate do
    if let some number := input then setDescriptor 0 (some number)
    evaluate tested last
  | stage :: others => do
    let output ← addOpenFile ⟨.pipe [], 0, true, true, false⟩
    let _ ← asChild evaluate do
      if let some number := input then setDescriptor 0 (some number)
      setDescriptor 1 (some output)
      evaluate tested stage
    stages evaluate tested (some output) others

/-- Runs a command in the background. It is run to its end at once. -/
def inBackground (evaluate : Evaluator) (command : Command) : Run Nat := do
  let id := (← world).lastProcess + 1
  let empty ← addOpenFile ⟨.sink, 0, true, false, false⟩
  let status ← asChild evaluate do
    setDescriptor 0 (some empty)
    evaluate false command
  modifyProcess fun process => { process with
    jobs := (id, status) :: process.jobs, lastJob := some id }
  return 0

/-! ## Commands of the shell that run others -/

/-- How many functions may be run inside of each other. -/
def maxCalls : Nat := 1000

/-- Runs a function with arguments. -/
def callFunction (evaluate : Evaluator) (tested : Bool) (body : Command) (arguments : List Text) :
    Run Nat := do
  let before ← process
  if maxCalls ≤ before.calls then stop
  modifyProcess fun process => { process with
    arguments := arguments, options := .start, loops := 0, calls := process.calls + 1 }
  let action := do
    match ← attempt (evaluate tested body) with
    | .error (.leave (.endOfBody _) status) => return status
    | result => resume result
  followedBy (Builtin.withLocals action)
    (modifyProcess fun process => { process with
      arguments := before.arguments
      options := before.options
      loops := before.loops
      calls := before.calls })

/-- How many files a shell may read inside of each other. -/
def maxSources : Nat := 1000

/-- Carries out the script in a file inside of another one. -/
def sourceFile (evaluate : Evaluator) (tested : Bool) (location : Location) : Run Nat := do
  if maxSources ≤ (← process).sources then stop
  modifyProcess fun process => { process with sources := process.sources + 1 }
  let action := do
    match ← attempt (file evaluate tested location) with
    | .error (.leave (.endOfBody _) status) => return status
    | result => resume result
  followedBy action
    (modifyProcess fun process => { process with sources := process.sources - 1 })

/-- Carries out the script in another file, which is looked up like a program. -/
def source (evaluate : Evaluator) (tested : Bool) (arguments : List Text) : Run Nat := do
  match ← Builtin.options "" arguments with
  | (_, []) => return 0
  | (_, name :: _) =>
    let path ←
      if name.contains '/' then pure (some name)
      else firstFile false (candidates (← process).searchPath name)
    match path with
    | none => stop
    | some path =>
      match ← find path with
      | .error _ => stop
      | .ok (location, _) => sourceFile evaluate tested location

/-- Carries out a text made of arguments. -/
def evaluateWords (evaluate : Evaluator) (tested : Bool) (arguments : List Text) : Run Nat := do
  text evaluate tested ([' '].intercalate arguments)

/-- Becomes another program, unless none is named. -/
def become (evaluate : Evaluator) (searchPath : Text) (arguments : List Text) : Run Nat := do
  if arguments.isEmpty then return 0
  match ← execute evaluate arguments (programPaths searchPath (arguments.headD [])) with
  | .ok status =>
    setStatus status
    throw .replaced
  | .error status =>
    setStatus status
    throw .exit

/-! ## Simple commands -/

/-- What a simple command is to run. -/
structure Call where
  /-- The name and the arguments. -/
  words : List Text
  /-- Where programs are looked up. -/
  searchPath : Text
  /-- Whether functions are passed over, and commands of the shell are not special. -/
  isDirect : Bool
  /-- The letters of the options that ask what a name leads to. -/
  questions : List Char

/-- The command behind `command` and its options. -/
def directCall (words : List Text) (searchPath : Text) : Run Call := do
  let (letters, rest) ← Builtin.options "pvV" words
  let searchPath := if letters.contains 'p' then usualSearchPath.toList else searchPath
  return ⟨rest, searchPath, true, letters.filter (· != 'p')⟩

/-- What some words are to run; the fuel bounds how often `command` stands before them. -/
def callOf : (fuel : Nat) → Call → Run Call
  | 0, call => return call
  | fuel + 1, call => do
    match call.words with
    | name :: rest =>
      let isFunction := !call.isDirect && ((← process).functions.lookup name).isSome
      if name = "command".toList ∧ !isFunction ∧ call.questions.isEmpty then
        callOf fuel (← directCall rest call.searchPath)
      else return call
    | [] => return call

/-- Whether a word is written as an assignment. -/
def isAssignmentWord (word : List Part) : Bool :=
  (Parse.assignment? word).isSome

/-- Expands the words of a command. The arguments of some commands may be assignments, which are not
cut. -/
def expandArguments (evaluate : Evaluator) : List (List Part) → (done : List Text) → Run (List Text)
  | [], done => return done
  | word :: words, done => do
    let name := (done.dropWhile fun text => text = "command".toList ∨ text.head? = some '-').head?
    let isAssigning := name.any fun text => assigningNames.contains (String.ofList text)
    if isAssigning && isAssignmentWord word then
      let text ← expandText evaluate true word
      expandArguments evaluate words (done ++ [text])
    else
      let texts ← expandFields evaluate word
      expandArguments evaluate words (done ++ texts)

/-- Whether the command of a call is one of the shell that ends it on a fault. -/
def Call.isSpecial (call : Call) : Bool :=
  !call.isDirect && call.words.head?.any fun name => specialNames.contains (String.ofList name)

/-- The command of the shell that a call leads to, if it leads to one. -/
def builtin? (evaluate : Evaluator) (tested : Bool) (call : Call) (name : Text) :
    Option (List Text → Run Nat) :=
  match String.ofList name with
  | "eval" => some (evaluateWords evaluate tested)
  | "." => some (source evaluate tested)
  | "exec" => some (become evaluate call.searchPath)
  | _ => Builtin.plainCommand? name

/-- Runs what a call leads to. -/
def runCall (evaluate : Evaluator) (tested : Bool) (call : Call) : Run Nat := do
  match call.words with
  | [] =>
    let process ← process
    return if call.isDirect then 0 else process.outputStatus
  | name :: arguments =>
    let process ← process
    if !call.questions.isEmpty then
      Builtin.sayKinds (call.questions.contains 'v') call.searchPath [name]
    else
      match if call.isDirect then none else process.functions.lookup name with
      | some body => callFunction evaluate tested body arguments
      | none =>
        match builtin? evaluate tested call name with
        | some action =>
          match ← attempt (action arguments) with
          | .error .fault =>
            if call.isSpecial then throw .fault
            else return (← Run.process).status
          | result => resume result
        | none =>
          asChild evaluate do
            match ← execute evaluate call.words (← commandPaths call.searchPath name) with
            | .ok status => return status
            | .error status => return status

/-- Makes the assignments before a command. -/
def assign (evaluate : Evaluator) (exports keeps : Bool) :
    List (Text × List Part) → Run Unit
  | [] => return
  | (name, word) :: rest => do
    let value ← expandText evaluate true word
    if keeps then Builtin.keep name
    setParameter name value exports
    assign evaluate exports keeps rest

/-- Runs a simple command: its words are expanded, then its redirections and assignments are made, which
last as long as the command, except for special ones. -/
def simple (evaluate : Evaluator) (tested : Bool) (assignments : List (Text × List Part))
    (words : List (List Part)) (redirections : List (Nat × Target)) : Run Nat := do
  modifyProcess fun process => { process with outputStatus := 0 }
  let texts ← expandArguments evaluate words []
  let call ← attempt (callOf (texts.length + 1) ⟨texts, [], false, []⟩)
  let before ← process
  let isExec := match call with
    | .ok call => call.words.head? = some "exec".toList
    | .error _ => false
  let run : Run Nat := do
    if !(← redirect evaluate redirections) then
      setStatus faultStatus
      match call with
      | .ok call => if call.isSpecial then throw .fault else return faultStatus
      | .error _ => return faultStatus
    match call with
    | .error _ => return faultStatus
    | .ok call =>
      let lasts := call.words.isEmpty || call.isSpecial
      let exports := !lasts || (isExec && call.words.length > 1)
      let action := do
        assign evaluate exports (!lasts) assignments
        let process ← process
        let searchPath := if call.searchPath.isEmpty then process.searchPath else call.searchPath
        runCall evaluate tested { call with searchPath := searchPath }
      if lasts || assignments.isEmpty then action else Builtin.withLocals action
  let result ← attempt run
  let isKept := isExec && match result with
    | .ok _ => true
    | .error _ => false
  if !redirections.isEmpty && !isKept then
    modifyProcess fun process => { process with descriptors := before.descriptors }
  resume result

/-! ## All commands -/

/-- Runs a command by its kind. -/
def byKind (evaluate : Evaluator) (tested : Bool) : Command → Run Nat
  | .simple assignments words redirections => simple evaluate tested assignments words redirections
  | .pipeline commands => stages evaluate tested none commands
  | .negated command => do
    let status ← evaluate true command
    return if status = 0 then 1 else 0
  | .joined first .and second => do
    let status ← evaluate true first
    if status = 0 then evaluate tested second else return status
  | .joined first .or second => do
    let status ← evaluate true first
    if status = 0 then return status else evaluate tested second
  | .joined first .next second =>
    (first.row ++ [second]).foldlM (fun _ command => evaluate tested command) 0
  | .background command => inBackground evaluate command
  | .subshell body => asChild evaluate (evaluate tested body)
  | .conditional test yes no => do
    let status ← evaluate true test
    if status = 0 then evaluate tested yes
    else
      match no with
      | some no => evaluate tested no
      | none => return 0
  | .loop test whileTrue body => loop evaluate tested test whileTrue body
  | .forEach name words body => do
    let values ← words.mapM (expandFields evaluate)
    insideLoop (forEach evaluate tested name body values.flatten 0)
  | .choice subject arms => do
    let text ← expandText evaluate false subject
    choose evaluate tested text arms
  | .definition name body => do
    modifyProcess fun process => { process with
      functions := (name, body) :: process.functions.filter fun entry => entry.1 != name }
    return 0
  | .redirected command redirections => withDescriptors do
    if ← redirect evaluate redirections then evaluate tested command
    else return faultStatus

/-- Runs a command, and ends the shell if it is to end on the failure of the command. A shell that only
reads passes over it. -/
def step (evaluate : Evaluator) (tested : Bool) (command : Command) : Run Nat := do
  if (← process).hasFlag 'n' then return 0
  let status ← byKind evaluate tested command
  setStatus status
  deliver evaluate
  if command.mayEnd && !tested && status != 0 && (← process).hasFlag 'e' then throw .exit
  return status

/-- Runs a command in which others may stand so deep. -/
def evaluate : (depth : Nat) → Evaluator
  | 0, _, _ => throw .exhausted
  | depth + 1, tested, command => step (evaluate depth) tested command

/-- How deep commands may stand in others. -/
def maxDepth : Nat := 20000

end Run

end GoAssist.Shell
