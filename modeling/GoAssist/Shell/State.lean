import GoAssist.Files.FileSystem
import GoAssist.Shell.Number
import GoAssist.Text.Bytes

/-!
# The state of shells

What a running program has for itself, and what it shares with the programs it starts. A shell runs
to a value or leaves its way by a jump; in both cases its state goes on. A parameter that may not be
changed keeps its value.
-/

namespace GoAssist.Shell

/-- What an open file leads to. -/
inductive Channel where
  /-- What is written is forgotten, and there is nothing to read. -/
  | sink
  | file (location : Location)
  | directory
  | pipe (content : Text)

/-- A file that was opened. -/
structure OpenFile where
  channel : Channel
  /-- Where the next byte is read or written. -/
  position : Nat
  canRead : Bool
  canWrite : Bool
  /-- Whether writing begins at the end. -/
  appends : Bool

/-- What all running programs share. -/
structure World where
  files : FileSystem
  /-- The open files, by their numbers. -/
  opened : Array OpenFile
  /-- The number of the last program that was started. -/
  lastProcess : Nat
  /-- Signals that were sent, each with the program it was sent to. -/
  signals : List (Nat × Nat)
  /-- The texts in place of files, by their numbers. -/
  documents : List (Nat × List Part)
  /-- The number of the next such text. -/
  nextDocument : Nat

/-- A parameter of a shell. -/
structure Parameter where
  value : Option Text
  isExported : Bool
  /-- Whether it may not be changed. -/
  isFixed : Bool

/-- Where the letters of options are read next from arguments. -/
structure OptionPlace where
  /-- The number of the next argument. -/
  index : Nat
  /-- How far the argument before that was read. -/
  offset : Nat

/-- The place before the first argument. -/
def OptionPlace.start : OptionPlace := ⟨1, 0⟩

/-- A running program. -/
structure Process where
  id : Nat
  /-- The program that started it. -/
  parent : Nat
  /-- The number of the shell that a subshell belongs to. -/
  root : Nat
  working : Location
  /-- The numbers of the open files that descriptors lead to. -/
  descriptors : List (Nat × Nat)
  parameters : List (Text × Parameter)
  functions : List (Text × Command)
  aliases : List (Text × Text)
  /-- What `$0` stands for. -/
  name : Text
  arguments : List Text
  /-- The letters of the options that are set. -/
  flags : List Char
  /-- The status of the last command. -/
  status : Nat
  /-- The status of the last command whose output stands in a word. -/
  outputStatus : Nat
  /-- The commands that signals run; a text of nothing passes over a signal. -/
  traps : List (Nat × Text)
  /-- The status from before the command that a signal runs. -/
  trapStatus : Option Nat
  /-- How many loops are being run. -/
  loops : Nat
  /-- How many functions are being run. -/
  calls : Nat
  /-- How many files are being read inside of the script. -/
  sources : Nat
  /-- What parameters were before the running functions changed them, the last function first. -/
  locals : List (List (Text × Option Parameter))
  /-- The programs in the background, with their status. -/
  jobs : List (Nat × Nat)
  /-- The last program that was started in the background. -/
  lastJob : Option Nat
  /-- Where options are read next. -/
  options : OptionPlace
  /-- The permissions that new files do not get. -/
  mask : Nat

/-- The state of a running program. -/
structure State where
  process : Process
  world : World

/-- Where leaving leads. -/
inductive Goal where
  /-- Behind so many loops. -/
  | endOfLoops (count : Nat)
  /-- To the next round of a loop, behind the loops inside of it. -/
  | nextRound (count : Nat)
  /-- Behind the function or script, with a status that was named or is that of the last command. -/
  | endOfBody (isNamed : Bool)
  deriving DecidableEq, Repr

/-- Why a command does not come to its end. -/
inductive Jump where
  /-- It leaves a loop, function or script, with a status. -/
  | leave (goal : Goal) (status : Nat)
  /-- It ends the shell. -/
  | exit
  /-- It has become another program, which has ended. -/
  | replaced
  /-- It cannot be carried out. -/
  | fault
  | killed (signal : Nat)
  /-- It was given up. -/
  | exhausted
  deriving DecidableEq, Repr

/-- A computation on the state of a running program. -/
abbrev Run := ExceptT Jump (StateM State)

/-- The status of a program that a signal ended. -/
def statusOfSignal (signal : Nat) : Nat := 128 + signal

/-- The status after something that cannot be carried out. -/
def faultStatus : Nat := 2

/-- The status of a program that was not found. -/
def missingStatus : Nat := 127

/-- The status of a program that cannot be run. -/
def unfitStatus : Nat := 126

namespace Run

/-- What the running program has for itself. -/
def process : Run Process := return (← get).process

/-- What all programs share. -/
def world : Run World := return (← get).world

/-- Changes what the running program has for itself. -/
def modifyProcess (change : Process → Process) : Run Unit :=
  modify fun state => { state with process := change state.process }

/-- Changes what all programs share. -/
def modifyWorld (change : World → World) : Run Unit :=
  modify fun state => { state with world := change state.world }

/-- Changes the files. -/
def modifyFiles (change : FileSystem → FileSystem) : Run Unit :=
  modifyWorld fun world => { world with files := change world.files }

/-- Runs a computation to its value or jump. -/
def attempt {α : Type} (action : Run α) : Run (Except Jump α) := fun state =>
  match action state with
  | (result, state) => (.ok result, state)

/-- Ends as a computation ended. -/
def resume {α : Type} (result : Except Jump α) : Run α := fun state => (result, state)

/-- Runs a computation, and something after it in any case. -/
def followedBy {α : Type} (action : Run α) (after : Run Unit) : Run α := do
  let result ← attempt action
  after
  resume result

/-- Stops for something that cannot be carried out. -/
def stop {α : Type} : Run α := do
  modifyProcess fun process => { process with status := faultStatus }
  throw .fault

/-- Repeats a step until it gives a result. -/
def iterate {σ α : Type} (step : σ → Run (σ ⊕ α)) : (bound : Nat) → σ → Run α
  | 0, _ => throw .exhausted
  | bound + 1, state => do
    match ← step state with
    | .inl next => iterate step bound next
    | .inr result => return result

/-- How often a step may be repeated. -/
def maxRounds : Nat := 1000000

end Run

/-! ## Parameters -/

namespace Process

/-- The value of a parameter that has a name. -/
def parameter? (process : Process) (name : Text) : Option Text :=
  (process.parameters.lookup name).bind Parameter.value

/-- Whether an option is set. -/
def hasFlag (process : Process) (letter : Char) : Bool :=
  process.flags.contains letter

/-- Whether a parameter may not be changed. -/
def isFixed (process : Process) (name : Text) : Bool :=
  (process.parameters.lookup name).any Parameter.isFixed

/-- A process in which a parameter stands as told. -/
def withParameter (process : Process) (name : Text) (parameter : Option Parameter) : Process :=
  let others := process.parameters.filter fun entry => entry.1 != name
  { process with
    parameters := match parameter with
      | some parameter => (name, parameter) :: others
      | none => others }

/-- A process in which a parameter has a value. -/
def withValue (process : Process) (name value : Text) (exports : Bool) : Process :=
  let exported := (process.parameters.lookup name).any Parameter.isExported
  let fixed := process.isFixed name
  process.withParameter name
    (some ⟨some value, exported || exports || process.hasFlag 'a', fixed⟩)

/-- The parameters that other programs are told, in order. -/
def environment (process : Process) : List (Text × Text) :=
  process.parameters.filterMap fun (name, parameter) =>
    if parameter.isExported then parameter.value.map fun value => (name, value) else none

/-- The directories in which programs are looked up. -/
def searchPath (process : Process) : Text :=
  (process.parameter? "PATH".toList).getD []

end Process

namespace Run

/-- What follows from the value of a parameter before it is given: the place of options is a number.
-/
def beforeSetting (name value : Text) : Run Unit := do
  if name = "OPTIND".toList then
    match Number.natural? value with
    | some n => modifyProcess fun process => { process with options := ⟨max n 1, 0⟩ }
    | none => stop

/-- Gives a parameter a value. -/
def setParameter (name value : Text) (exports : Bool) : Run Unit := do
  if (← process).isFixed name then stop
  beforeSetting name value
  modifyProcess fun process => process.withValue name value exports

/-- Sets the status of the last command. -/
def setStatus (status : Nat) : Run Unit :=
  modifyProcess fun process => { process with status := status }

end Run

end GoAssist.Shell
