import GoAssist.Files.Machine
import GoAssist.Settings.Basic

/-!
# The settings store

Settings are kept in a file. Loading a missing file gives settings in which nothing is set, and a Go
path that is not set is looked for on the machine. Each setting is changed by loading, changing and
saving all of them, after its new value was checked.

The Go program at a path is tried by some way to run programs, of which the machine's own is one
(`setGoPathBy`, `setGoPath`). What is loaded hangs on the files only through what reading the settings
file comes to (`loadFrom`, `load`).
-/

namespace GoAssist

/-- Why settings cannot be loaded or changed. -/
inductive SettingsError where
  /-- The file cannot be read or written. -/
  | inaccessible (path : String)
  /-- The file does not spell settings. -/
  | malformed (path : String)
  /-- The path does not lead to a program that works. -/
  | unusableGoPath (path : String)
  /-- The path does not lead to a directory. -/
  | notDirectory (path : String)
  deriving DecidableEq, Repr

/-- An error in words. -/
def SettingsError.message : SettingsError → String
  | .inaccessible path => "failed to access " ++ path
  | .malformed path => "invalid settings file " ++ path
  | .unusableGoPath path => "'" ++ path ++ "' is not a working Go executable"
  | .notDirectory path => "'" ++ path ++ "' is not a directory"

/-- The name of the Go program. -/
def goProgram : String := "go"

/-- Where Go is commonly installed. -/
def commonGoPaths : List String :=
  ["/usr/local/go/bin/go", "/usr/bin/go", "/opt/homebrew/bin/go",
   "C:\\Program Files\\Go\\bin\\go.exe", "C:\\go\\bin\\go.exe"]

namespace Machine

/-- The path of the Go program, looked for first in the search path and then where it is commonly
installed. Any file of the name will do. -/
def detectGoPath? (machine : Machine) : Option String :=
  (machine.searchDirectories.map (Path.join · goProgram) ++ commonGoPaths).find?
    (machine.files.isFile machine.working)

/-- Asks the Go program at a path for its version, by some way to run programs. -/
def tryGoPathBy (run : Runner) (machine : Machine) (path : String) : Trial :=
  if machine.files.pathExists machine.working path then run machine path ["version"]
  else ⟨machine.files, none⟩

/-- Asks the Go program at a path for its version. -/
def tryGoPath (machine : Machine) (path : String) : Trial :=
  machine.tryGoPathBy run path

end Machine

/-- The result of a change: the files after it, and what it gives or why it failed. -/
structure Change (α : Type) where
  /-- The files after the change. -/
  files : FileSystem
  /-- What the change gives. -/
  outcome : Except SettingsError α

/-- A store of settings in the file at a path. -/
structure Store where
  /-- The path of the file. -/
  path : String
  deriving DecidableEq, Repr

namespace Store

/-- What reading the file comes to. -/
def read (store : Store) (machine : Machine) : Except FileError String :=
  machine.files.readText machine.working store.path

/-- The settings that were read, with a Go path that is not set left as it is. -/
def storedFrom (store : Store) (reading : Except FileError String) : Except SettingsError Settings :=
  match reading with
  | .error .notFound => .ok .unset
  | .error _ => .error (.inaccessible store.path)
  | .ok text =>
    match Settings.ofText? text with
    | some settings => .ok settings
    | none => .error (.malformed store.path)

/-- The settings that were read. A Go path that is not set is looked for. -/
def loadFrom (store : Store) (machine : Machine) (reading : Except FileError String) :
    Except SettingsError Settings := do
  let settings ← store.storedFrom reading
  if settings.goPath.isEmpty then
    return { settings with goPath := machine.detectGoPath?.getD "" }
  else return settings

/-- The settings in the file, with a Go path that is not set left as it is. -/
def loadStored (store : Store) (machine : Machine) : Except SettingsError Settings :=
  store.storedFrom (store.read machine)

/-- The settings in the file. A Go path that is not set is looked for. -/
def load (store : Store) (machine : Machine) : Except SettingsError Settings :=
  store.loadFrom machine (store.read machine)

/-- Writes the text of settings to the file, and makes its directory if that is missing. Settings whose
folder is no text have none, which is found out once the directory is there. -/
def saveText (store : Store) (machine : Machine) (text? : Option String) : Change Unit :=
  match machine.files.makeParents machine.working store.path with
  | (files, .error _) => ⟨files, .error (.inaccessible store.path)⟩
  | (files, .ok ()) =>
    match text? with
    | none => ⟨files, .error (.malformed store.path)⟩
    | some text =>
      match files.writeFile machine.working store.path text.toUTF8 with
      | .error _ => ⟨files, .error (.inaccessible store.path)⟩
      | .ok files => ⟨files, .ok ()⟩

/-- Writes settings to the file, and makes its directory if that is missing. -/
def save (store : Store) (machine : Machine) (settings : Settings) : Change Unit :=
  store.saveText machine (some settings.toText)

/-- Loads settings from what was read, changes them and saves them in some way. -/
def modifyBy (store : Store) (machine : Machine) (reading : Except FileError String)
    (save : Settings → Change Unit) (change : Settings → Settings) : Change Settings :=
  match store.loadFrom machine reading with
  | .error error => ⟨machine.files, .error error⟩
  | .ok settings =>
    let changed := change settings
    let saved := save changed
    ⟨saved.files, saved.outcome.map fun _ => changed⟩

/-- Loads the settings, changes them and saves them. -/
def modify (store : Store) (machine : Machine) (change : Settings → Settings) : Change Settings :=
  store.modifyBy machine (store.read machine) (store.save machine) change

/-- Sets the path of the Go program, if it leads to one by some way to run programs. -/
def setGoPathBy (run : Runner) (store : Store) (machine : Machine) (path : String) :
    Change Settings :=
  let trial := machine.tryGoPathBy run path
  if trial.succeeds then
    store.modify (machine.withFiles trial.files) fun settings => { settings with goPath := path }
  else ⟨trial.files, .error (.unusableGoPath path)⟩

/-- Sets the path of the Go program, if it leads to one. -/
def setGoPath (store : Store) (machine : Machine) (path : String) : Change Settings :=
  store.setGoPathBy Machine.run machine path

/-- Sets the workspace folder, if it is a directory. -/
def setWorkspaceFolder (store : Store) (machine : Machine) (folder : String) : Change Settings :=
  if machine.files.isDirectory machine.working folder then
    store.modify machine fun settings => { settings with workspaceFolder := some folder }
  else ⟨machine.files, .error (.notDirectory folder)⟩

variable {run : Runner} {store : Store} {machine : Machine} {reading : Except FileError String}
  {save : Settings → Change Unit} {change : Settings → Settings}

/-- A path that leads nowhere is not tried. -/
theorem tryGoPathBy_of_not_pathExists {path : String}
    (h : machine.files.pathExists machine.working path = false) :
    machine.tryGoPathBy run path = ⟨machine.files, none⟩ := by
  simp [Machine.tryGoPathBy, h]

/-- Settings that cannot be loaded are not changed. -/
theorem modifyBy_of_load_error {error : SettingsError}
    (h : store.loadFrom machine reading = .error error) :
    store.modifyBy machine reading save change = ⟨machine.files, .error error⟩ := by
  rw [modifyBy, h]

theorem modifyBy_of_load_ok {settings : Settings} (h : store.loadFrom machine reading = .ok settings) :
    store.modifyBy machine reading save change
      = ⟨(save (change settings)).files, (save (change settings)).outcome.map fun _ => change settings⟩ := by
  rw [modifyBy, h]

end Store

end GoAssist
