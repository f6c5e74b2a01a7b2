import GoAssist.CommandLine.ServerProgram
import GoAssist.Files.Standard
import GoAssist.Json.Reader

/-!
# The programs

One executable is both programs: under a name that ends in `-lsp` it is the language server, under
any other the assistant. Everything is decided elsewhere; here files, environment and streams are
read and written.
-/

namespace GoAssist

/-- What stands at a location of the disk. A program for the machine is known by its name. -/
def nodeOnDisk (location : Location) : IO (Option Node) := do
  try
    let path ← IO.FS.realPath location.toPath
    if ← path.isDir then return some .directory
    else
      let content ← IO.FS.readBinFile path
      let isProgram := (Shell.Program.magic.take 4).isPrefixOf content.data.toList
      let name := location.headD ""
      return some (.file (if isProgram then Shell.Program.image name else content) true)
  catch _ => return none

/-- The file system of the disk as far as some paths lead through it; elsewhere that of a usual
machine. -/
def filesOnDisk (working : Location) (paths : List String) : IO FileSystem := do
  let places := paths.flatMap fun path =>
    (FileSystem.origin working path).onWay (Path.components path)
  let mut files : FileSystem := .usual
  for place in places.eraseDups do
    files := files.set place (← nodeOnDisk place)
  return files

/-- Writes what a command has changed to the disk. -/
def saveToDisk (before after : FileSystem) : IO Unit := do
  for (location, node) in after.entries.reverse do
    match node, before.node? location with
    | .file content _, some (.file old _) =>
      if old.data != content.data then IO.FS.writeBinFile location.toPath content
    | .file content _, none =>
      IO.FS.createDirAll (Location.toPath location.tail)
      IO.FS.writeBinFile location.toPath content
    | .directory, none => IO.FS.createDirAll location.toPath
    | _, _ => pure ()
  for (location, node) in before.entries do
    match node, after.node? location with
    | .file _ _, none => IO.FS.removeFile location.toPath
    | _, _ => pure ()

/-- Prints how a program ends. -/
def printReport (report : Report) : IO UInt32 := do
  IO.print report.output
  IO.eprint report.errors
  return report.code.toUInt32

/-- The environment as far as programs are told of it. -/
def knownEnvironment : IO (List (String × String)) := do
  let values ← ["PATH", "HOME", "XDG_CONFIG_HOME"].mapM fun name => do
    return (← IO.getEnv name).map fun value => (name, value)
  return values.filterMap id

/-- The assistant. -/
def assist (arguments : List String) : IO UInt32 := do
  let working := ((Path.components (toString (← IO.currentDir))).foldl Location.move [])
  let unknown : Machine := ⟨.empty, working, ← knownEnvironment⟩
  let store := (Home.ofEnvironment unknown.environment).store
  let programs := unknown.searchDirectories.map (Path.join · goProgram) ++ commonGoPaths
  let named := arguments ++ arguments.flatMap unknown.programPaths
  let files ← filesOnDisk working (store.path :: programs ++ named)
  let (after, report) := runAssistant (unknown.withFiles files) arguments
  saveToDisk files after
  printReport report

/-- Reads the header of a message: the length of its content, or nothing at the end of the input. -/
partial def readHeader (input : IO.FS.Stream) (length : Nat) : IO (Option Nat) := do
  let line ← input.getLine
  if line.isEmpty then return none
  let text := String.ofList (line.toList.filter fun c => !isBlank c)
  if text.isEmpty then return some length
  match text.toLower.splitOn ":" with
  | ["content-length", digits] => readHeader input (digits.toNat?.getD length)
  | _ => readHeader input length

/-- Reads so many bytes, or fewer at the end of the input. -/
partial def readBytes (input : IO.FS.Stream) (size : Nat) (read : ByteArray) : IO ByteArray := do
  if size ≤ read.size then return read
  let more ← input.read (size - read.size).toUSize
  if more.isEmpty then return read else readBytes input size (read ++ more)

/-- Writes a message with its header. -/
def writeMessage (output : IO.FS.Stream) (message : Json) : IO Unit := do
  let text := message.compact
  output.putStr ("Content-Length: " ++ toString text.utf8ByteSize ++ "\r\n\r\n" ++ text)
  output.flush

/-- Serves an editor to the end of the input or of the connection. -/
partial def serveEditor (input output : IO.FS.Stream) (connection : Connection) : IO Unit := do
  match ← readHeader input 0 with
  | none => return
  | some length =>
    let json := (String.fromUTF8? (← readBytes input length .empty)).bind Json.ofText?
    let exchange := connection.take .goStandard ((json.map Incoming.ofJson).getD .unreadable)
    for frame in exchange.toJson do
      writeMessage output frame
    if exchange.connection.phase = .exited then return
    serveEditor input output exchange.connection

/-- The language server. -/
def serve (arguments : List String) : IO UInt32 := do
  match startServer arguments with
  | .refuse report => printReport report
  | .serve debug =>
    serveEditor (← IO.getStdin) (← IO.getStdout) (.start debug)
    return 0

end GoAssist

/-- Runs the program that the executable is named for. -/
def main (arguments : List String) : IO UInt32 := do
  if (toString (← IO.appPath)).endsWith "-lsp" then GoAssist.serve arguments
  else GoAssist.assist arguments
