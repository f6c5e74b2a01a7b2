import GoAssist.CommandLine.Assistant
import GoAssist.CommandLine.LogFilter
import GoAssist.Server.Connection

/-!
# The language server as a program

The server talks over its standard streams, and asks to be told so. `ServerOptions.parse` reads its
arguments.
-/

namespace GoAssist

/-- What the server is told when it starts. -/
structure ServerOptions where
  /-- Whether to talk over the standard streams. -/
  stdio : Bool
  /-- Whether every call is logged to the editor. -/
  debug : Bool
  /-- Which lines are written to the server's own log. -/
  logFilter : Option String
  deriving DecidableEq, Repr

/-- How the server starts. -/
inductive ServerStart where
  /-- It serves. -/
  | serve (debug : Bool)
  /-- It ends at once. -/
  | refuse (report : Report)
  deriving Repr

/-- Reads the server's arguments. -/
def ServerOptions.parse (texts : List String) : Parsed ServerOptions := do
  let shape : Shape := ⟨["stdio", "debug", "no-color"], ["log-level"], 0, [], true⟩
  let arguments ← shape.parse texts
  return ⟨arguments.hasFlag "stdio", arguments.hasFlag "debug", arguments.option? "log-level"⟩

/-- How the server starts with its options. -/
def ServerOptions.start (options : ServerOptions) : ServerStart :=
  if !options.stdio then .refuse (.failure "--stdio flag is required")
  else
    match options.logFilter.map LogFilter.read with
    | some .invalid => .refuse (.failure "invalid log filter")
    | some .crash => .refuse .crash
    | _ => .serve options.debug

/-- How the server starts when it is called with arguments. -/
def startServer (arguments : List String) : ServerStart :=
  match ServerOptions.parse arguments with
  | .ok options => options.start
  | .version => .refuse (.ofLines [serverName ++ " " ++ version])
  | .help => .refuse (.ofLines ["Usage: " ++ serverName ++ " --stdio [OPTIONS]"])
  | .invalid => .refuse .misuse

end GoAssist
