import GoAssist.Shell.Program

/-!
# The files of a usual machine

The directories, devices and programs that a machine has before anyone puts files there. Every
directory stands in a directory (`parents_are_directories`).
-/

namespace GoAssist.FileSystem

/-- The directories of a usual machine. -/
def usualDirectories : List Location :=
  [[], ["bin"], ["boot"], ["dev"], ["shm", "dev"], ["etc"], ["home"], ["lib"], ["lib64"], ["media"],
   ["mnt"], ["opt"], ["proc"], ["root"], ["run"], ["sbin"], ["srv"], ["sys"], ["tmp"], ["usr"],
   ["bin", "usr"], ["include", "usr"], ["lib", "usr"], ["local", "usr"], ["bin", "local", "usr"],
   ["lib", "local", "usr"], ["sbin", "local", "usr"], ["share", "local", "usr"], ["sbin", "usr"],
   ["share", "usr"], ["src", "usr"], ["var"], ["cache", "var"], ["lib", "var"], ["log", "var"],
   ["tmp", "var"]]

/-- The devices that forget what is written to them and have nothing to read: the null device, and the
standard streams as they are for a program that is tried. -/
def usualDevices : List Location :=
  ["null", "stdin", "stdout", "stderr"].map fun name => [name, "dev"]

/-- The files that tell about the machine, with what they say. -/
def usualTexts : List (Location × String) :=
  [(["passwd", "etc"], "root:x:0:0:root:/root:/bin/bash\n"),
   (["group", "etc"], "root:x:0:\n"),
   (["hosts", "etc"], "127.0.0.1\tlocalhost\n"),
   (["hostname", "etc"], "localhost\n")]

/-- The names of the programs of a usual machine. -/
def usualPrograms : List String :=
  ["sh", "dash", "bash", "true", "false", "echo", "printf", "test", "[", "cat", "pwd", "env", "sleep",
   "head", "wc", "tee", "ls", "mkdir", "touch", "rmdir", "rm", "cp", "mv", "chmod", "basename",
   "dirname", "seq", "expr", "which", "kill", "uname", "id", "whoami", "sync"]

/-- The files of a usual machine. -/
def usual : FileSystem :=
  let directories := usualDirectories.map fun location => (location, Node.directory)
  let devices := usualDevices.map fun location => (location, Node.sink)
  let texts := usualTexts.map fun (location, text) => (location, Node.file text.toUTF8 false)
  let programs := usualPrograms.flatMap fun name =>
    let node := Node.file (Shell.Program.image name) true
    [([name, "bin"], node), ([name, "bin", "usr"], node)]
  ⟨directories ++ devices ++ texts ++ programs⟩

/-- Every directory of a usual machine stands in one. -/
theorem parents_are_directories :
    ∀ location ∈ usualDirectories, location.tail ∈ usualDirectories := by
  decide

end GoAssist.FileSystem
