import GoAssist.CommandLine.Arguments

/-!
# The commands of the assistant

What may be asked of the assistant on the command line. `Command.parse` reads the arguments. Every
command and subcommand also takes a log filter, and the innermost one counts.
-/

namespace GoAssist

/-- What to do with the settings. -/
inductive ConfigAction where
  /-- Print them. -/
  | print
  /-- Print the path of their file. -/
  | location
  /-- Print the path of the Go program that is found on the machine. -/
  | detect
  | setGoPath (path : String)
  | setWorkspaceFolder (folder : String)
  deriving DecidableEq, Repr

/-- What the assistant is asked for. -/
inductive Command where
  /-- The candidates at a column of a line, or at its end. -/
  | complete (line : String) (column : Option Nat) (filter json : Bool)
  | hover (identifier : String) (json : Bool)
  | packages (json : Bool)
  | config (action : ConfigAction)
  deriving DecidableEq, Repr

/-- What was asked for, and how it is to be logged. -/
structure Asked (α : Type) where
  /-- What was asked for. -/
  value : α
  /-- Which lines are written to the program's log. -/
  logFilter : Option String
  deriving DecidableEq, Repr

namespace Asked

variable {α β : Type}

/-- What a command with no subcommand was asked for. -/
def ofArguments (arguments : Arguments) (value : α) : Asked α :=
  ⟨value, arguments.option? "log-level"⟩

/-- What a command was asked for by its subcommand, whose log filter counts first. -/
def within (outer : Arguments) (wrap : α → β) (inner : Asked α) : Asked β :=
  ⟨wrap inner.value, inner.logFilter <|> outer.option? "log-level"⟩

end Asked

namespace Command

/-- The shape of a command with its flags, options and number of values. -/
def leaf (flags options : List String) (values : Nat) : Shape :=
  ⟨flags, "log-level" :: options, values, [], false⟩

/-- The shape of a command of which one of some subcommands has to be given. -/
def branch (subcommands : List String) (hasVersion : Bool) : Shape :=
  ⟨[], ["log-level"], 0, subcommands, hasVersion⟩

/-- The one value of a command. -/
def onlyValue (arguments : Arguments) : Parsed String :=
  match arguments.values with
  | [value] => .ok value
  | _ => .invalid

/-- Reads the arguments of a command that takes none of its own. -/
def parseBare {α : Type} (value : α) (texts : List String) : Parsed (Asked α) := do
  return .ofArguments (← (leaf [] [] 0).parse texts) value

/-- Reads the arguments of a command on a path, which may not be empty. -/
def parsePath {α : Type} (wrap : String → α) (texts : List String) : Parsed (Asked α) := do
  let arguments ← (leaf [] [] 1).parse texts
  let value ← onlyValue arguments
  if value.isEmpty then .invalid else return .ofArguments arguments (wrap value)

/-- Reads what to do with the settings. -/
def parseConfig (texts : List String) : Parsed (Asked ConfigAction) := do
  let outer ← (branch ["show", "path", "detect", "set-go-path", "set-workspace"] false).parse texts
  let (name, rest) ← .ofOption outer.subcommand
  let inner ← match name with
    | "show" => parseBare .print rest
    | "path" => parseBare .location rest
    | "detect" => parseBare .detect rest
    | "set-go-path" => parsePath .setGoPath rest
    | _ => parsePath .setWorkspaceFolder rest
  return .within outer id inner

/-- Reads the arguments of `complete`. -/
def parseComplete (texts : List String) : Parsed (Asked Command) := do
  let arguments ← (leaf ["filter", "json"] ["line", "column"] 0).parse texts
  let line ← .ofOption (arguments.option? "line")
  let column ← match arguments.option? "column" with
    | none => pure none
    | some text => pure (some (← .ofOption (decimal? UInt64.size text)))
  return .ofArguments arguments
    (.complete line column (arguments.hasFlag "filter") (arguments.hasFlag "json"))

/-- Reads the arguments of `hover`. -/
def parseHover (texts : List String) : Parsed (Asked Command) := do
  let arguments ← (leaf ["json"] [] 1).parse texts
  return .ofArguments arguments (.hover (← onlyValue arguments) (arguments.hasFlag "json"))

/-- Reads the arguments of `packages`. -/
def parsePackages (texts : List String) : Parsed (Asked Command) := do
  let arguments ← (leaf ["json"] [] 0).parse texts
  return .ofArguments arguments (.packages (arguments.hasFlag "json"))

/-- Reads the arguments of the assistant. -/
def parse (texts : List String) : Parsed (Asked Command) := do
  let outer ← (branch ["complete", "hover", "packages", "config"] true).parse texts
  let (name, rest) ← .ofOption outer.subcommand
  match name with
  | "complete" => return .within outer id (← parseComplete rest)
  | "hover" => return .within outer id (← parseHover rest)
  | "packages" => return .within outer id (← parsePackages rest)
  | _ => return .within outer .config (← parseConfig rest)

end Command

end GoAssist
