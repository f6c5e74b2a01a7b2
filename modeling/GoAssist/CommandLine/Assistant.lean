import GoAssist.CommandLine.Command
import GoAssist.CommandLine.LogFilter
import GoAssist.Completion.Ranking
import GoAssist.Hover
import GoAssist.Registry.GoStandard
import GoAssist.Server.Wire
import GoAssist.Settings.Store

/-!
# The assistant on the command line

What the assistant prints for each command and with which exit code it ends. Only changes of the
settings touch files.
-/

namespace GoAssist

/-- How a program ends. -/
structure Report where
  /-- The exit code. -/
  code : Nat
  /-- What it prints. -/
  output : String
  /-- What it says about errors. -/
  errors : String
  deriving DecidableEq, Repr

namespace Report

/-- A program that ends well. -/
def success (output : String) : Report :=
  ⟨0, output, ""⟩

/-- A program that fails and says why. -/
def failure (reason : String) : Report :=
  ⟨1, "", "Error: " ++ reason ++ "\n"⟩

/-- A program that was not called as it has to be. -/
def misuse : Report :=
  ⟨2, "", "Error: invalid arguments\n"⟩

/-- A program that crashes. -/
def crash : Report :=
  ⟨101, "", "the log filter cannot be read\n"⟩

/-- A program that prints JSON. -/
def ofJson (json : Json) : Report :=
  success (json.pretty ++ "\n")

/-- A program that prints lines. -/
def ofLines (lines : List String) : Report :=
  success (String.join (lines.map (· ++ "\n")))

end Report

/-- Where a user's programs keep their files. -/
structure Home where
  /-- The user's own directory. -/
  directory : String
  /-- The directory for settings that the user asks for. -/
  config : Option String
  deriving DecidableEq, Repr

/-- Where a user's programs keep their files, as the environment tells. -/
def Home.ofEnvironment (environment : List (String × String)) : Home :=
  ⟨(environment.lookup "HOME").getD "/", environment.lookup "XDG_CONFIG_HOME"⟩

/-- The directory for settings: the one asked for, if its path is absolute. -/
def Home.configDirectory (home : Home) : String :=
  match home.config with
  | some path => if Path.isAbsolute path then path else Path.join home.directory ".config"
  | none => Path.join home.directory ".config"

/-- The store of a user's settings. -/
def Home.store (home : Home) : Store :=
  ⟨Path.join (Path.join home.configDirectory "gopad") "config.json"⟩

/-- A text with blanks after it, at least `width` characters long. -/
def padded (width : Nat) (text : String) : String :=
  text ++ String.ofList (List.replicate (width - text.length) ' ')

/-- A candidate as JSON. -/
def Candidate.toJson (candidate : Candidate) : Json :=
  .object [
    ("label", .string candidate.label),
    ("kind", .string candidate.kind.name),
    ("detail", match candidate.detail with
      | some detail => .string detail
      | none => .null),
    ("insert_text", .string candidate.insertText),
    ("is_snippet", .bool candidate.isSnippet),
    ("start", .ofNat candidate.span.start),
    ("end", .ofNat candidate.span.stop)]

/-- A candidate as a line of text. -/
def Candidate.toLine (candidate : Candidate) : String :=
  padded 10 candidate.kind.name ++ " " ++ padded 14 candidate.label ++ " "
    ++ candidate.detail.getD ""

/-- How many members of each kind a package has, as JSON. -/
def Package.summaryJson (package : Package) : Json :=
  .object [
    ("name", .string package.name),
    ("functions", .ofNat package.functions.length),
    ("constants", .ofNat package.constants.length),
    ("variables", .ofNat package.vars.length)]

/-- How many members of each kind a package has, as a line of text. -/
def Package.summaryLine (package : Package) : String :=
  padded 10 package.name ++ " " ++ toString package.functions.length ++ " functions, "
    ++ toString package.constants.length ++ " constants, "
    ++ toString package.vars.length ++ " variables"

namespace Command

/-- The candidates that `complete` shows. -/
def shownCandidates (registry : Registry) (line : Line) (column : Option Nat) (filter : Bool) :
    List Candidate :=
  let candidates := registry.candidatesAt line (column.getD line.length)
  if filter then rank candidates (typedWord line candidates) else candidates

/-- Shows candidates. -/
def showCandidates (candidates : List Candidate) (json : Bool) : Report :=
  if json then .ofJson (.array (candidates.map Candidate.toJson))
  else if candidates.isEmpty then .ofLines ["No completions"]
  else .ofLines (candidates.map Candidate.toLine)

/-- Shows the explanation of a name. -/
def showHover (identifier : String) (hover : Option Hover) (json : Bool) : Report :=
  match hover, json with
  | some hover, true => .ofJson (.object [("contents", .ofStrings hover.contents)])
  | none, true => .ofJson .null
  | some hover, false => .ofLines hover.contents
  | none, false => .ofLines ["No hover information for '" ++ identifier ++ "'"]

/-- Shows the packages. -/
def showPackages (packages : List Package) (json : Bool) : Report :=
  if json then .ofJson (.array (packages.map Package.summaryJson))
  else .ofLines (packages.map Package.summaryLine)

/-- Shows settings, or why they cannot be shown; `context` says what was tried. -/
def showSettings (context : String) : Except SettingsError Settings → Report
  | .ok settings => .ofJson settings.toJson
  | .error error => .failure (context ++ error.message)

/-- Carries out what is to be done with the settings. -/
def runConfig (home : Home) (machine : Machine) : ConfigAction → FileSystem × Report
  | .print => (machine.files, showSettings "" (home.store.load machine))
  | .location => (machine.files, .ofLines [home.store.path])
  | .detect => (machine.files, .ofLines [machine.detectGoPath?.getD "Go not found"])
  | .setGoPath path =>
    let change := home.store.setGoPath machine path
    (change.files,
      showSettings ("Could not set Go path in " ++ home.store.path ++ ": ") change.outcome)
  | .setWorkspaceFolder folder =>
    let change := home.store.setWorkspaceFolder machine folder
    (change.files,
      showSettings ("Could not set workspace in " ++ home.store.path ++ ": ") change.outcome)

/-- Carries out a command: the files after it, and how it ends. -/
def run (registry : Registry) (home : Home) (machine : Machine) :
    Command → FileSystem × Report
  | .complete line column filter json =>
    (machine.files,
      showCandidates (shownCandidates registry line.toList column filter) json)
  | .hover identifier json =>
    (machine.files, showHover identifier (registry.hover? identifier) json)
  | .packages json => (machine.files, showPackages registry.packages.toList json)
  | .config action => runConfig home machine action

/-! ## Commands that touch no file -/

variable {registry : Registry} {home : Home} {machine : Machine}

end Command

/-- The name of the assistant's program. -/
def assistantName : String := "gopad"

/-- What the assistant does when it is called with arguments. A log filter that does not fit is
passed over. -/
def runAssistant (machine : Machine) (arguments : List String) : FileSystem × Report :=
  match Command.parse arguments with
  | .ok asked =>
    if asked.logFilter.map LogFilter.read = some .crash then (machine.files, .crash)
    else asked.value.run .goStandard (.ofEnvironment machine.environment) machine
  | .version => (machine.files, .ofLines [assistantName ++ " " ++ version])
  | .help =>
    (machine.files, .ofLines ["Usage: " ++ assistantName ++ " [--log-level FILTER] COMMAND"])
  | .invalid => (machine.files, .misuse)

end GoAssist
