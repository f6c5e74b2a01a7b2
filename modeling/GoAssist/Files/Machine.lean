import GoAssist.Files.FileSystem
import GoAssist.Shell.Evaluation
import GoAssist.Text.Pieces

/-!
# A machine

A file system with a working directory and an environment. A program named by a path is run from
there; a bare name is looked up in the directories of the search path. A program may change files, and
one that cannot be started changes none.
-/

namespace GoAssist

/-- Files and the surroundings in which programs run. -/
structure Machine where
  /-- The files. -/
  files : FileSystem
  /-- Where relative paths begin. -/
  working : Location
  /-- What programs are told, by name. -/
  environment : List (String × String)

/-- What running a program leads to. -/
structure Trial where
  /-- The files after it. -/
  files : FileSystem
  /-- The status with which the program ended, if it was started and not given up. -/
  status : Option Nat

/-- A way to run programs, given by their paths or bare names, with arguments. -/
abbrev Runner := Machine → String → List String → Trial

/-- Whether a program ended well. -/
def Trial.succeeds (trial : Trial) : Bool :=
  trial.status == some 0

namespace Machine

/-- A machine with other files. -/
def withFiles (machine : Machine) (files : FileSystem) : Machine :=
  { machine with files := files }

/-- The directories in which programs are looked up, between colons. -/
def searchPath (machine : Machine) : Option String :=
  machine.environment.lookup "PATH"

/-- The directories of a search path, in order; an empty one is the working directory. -/
def directoriesOf (searchPath : String) : List String :=
  (pieces ':' searchPath.toList).map String.ofList

/-- The directories of the search path, if there is one. -/
def searchDirectories (machine : Machine) : List String :=
  (machine.searchPath.map directoriesOf).getD []

/-- Where programs are started from if there is no search path. -/
def usualDirectories : List String := ["/bin", "/usr/bin"]

/-- The paths at which a program may stand that is given by its path or its bare name. -/
def programPaths (machine : Machine) (program : String) : List String :=
  if program.toList.contains '/' then [program]
  else
    let directories := (machine.searchPath.map directoriesOf).getD usualDirectories
    directories.map (Path.join · program)

/-- The first program among some paths, by its name and arguments. The search ends at a file that is not
written as a program. -/
def firstProgram (machine : Machine) (arguments : List Shell.Text) :
    List String → Except Shell.StartError (String × List Shell.Text)
  | [] => .error .missing
  | path :: paths =>
    match Shell.load machine.files machine.working Shell.maxInterpreters (Bytes.ofString path)
        arguments with
    | .ok program => .ok program
    | .error .missing => machine.firstProgram arguments paths
    | .error .refused => machine.firstProgram arguments paths
    | .error error => .error error

/-- How many programs a machine has started before. -/
def startedBefore : Nat := 1000

/-- The state of a program that has nothing to read and whose output is forgotten. -/
def startState (machine : Machine) : Shell.State where
  process :=
    { id := startedBefore + 1
      parent := startedBefore
      root := startedBefore + 1
      working := machine.working
      descriptors := [(0, 0), (1, 1), (2, 1)]
      parameters := machine.environment.map fun (name, value) =>
        (Bytes.ofString name, ⟨some (Bytes.ofString value), true, false⟩)
      functions := []
      aliases := []
      name := []
      arguments := []
      flags := []
      status := 0
      outputStatus := 0
      traps := []
      trapStatus := none
      loops := 0
      calls := 0
      sources := 0
      locals := []
      jobs := []
      lastJob := none
      options := .start
      mask := 18 }
  world :=
    { files := machine.files
      opened := #[⟨.sink, 0, true, false, false⟩, ⟨.sink, 0, false, true, false⟩]
      lastProcess := startedBefore + 1
      signals := []
      documents := []
      nextDocument := 0 }

/-- Runs a program given by its path or its bare name. -/
def run (machine : Machine) (program : String) (arguments : List String) : Trial :=
  let words := (program :: arguments).map Bytes.ofString
  match machine.firstProgram words (machine.programPaths program) with
  | .error _ => ⟨machine.files, none⟩
  | .ok (name, words) =>
    let evaluator := Shell.Run.evaluate Shell.Run.maxDepth
    let (result, after) :=
      Shell.Run.startProgram evaluator Shell.Run.maxEnvironments name words machine.startState
    let status : Option Nat := match result with
      | .ok status => some (status % Shell.Run.statusCount)
      | .error _ => none
    ⟨after.world.files, status⟩

end Machine

end GoAssist
