import GoAssist.Shell.State

/-!
# Open files

How descriptors are opened, written and read. Descriptors that are copies of each other share one
place in their file. A file is written from that place on, or at its end.
-/

namespace GoAssist.Shell

/-- A text that was written over another from a place on. -/
def splice (content : Text) (position : Nat) (text : Text) : Text :=
  content.take position ++ List.replicate (position - content.length) '\x00' ++ text
    ++ content.drop (position + text.length)

namespace Run

/-- The file that a descriptor leads to, and its number. -/
def openFile? (descriptor : Nat) : Run (Option (Nat × OpenFile)) := do
  match (← process).descriptors.lookup descriptor with
  | none => return none
  | some number => return (← world).opened[number]?.map fun file => (number, file)

/-- Changes an open file. -/
def setOpenFile (number : Nat) (file : OpenFile) : Run Unit :=
  modifyWorld fun world => { world with opened := world.opened.setIfInBounds number file }

/-- Opens a file and gives its number. -/
def addOpenFile (file : OpenFile) : Run Nat := do
  let number := (← world).opened.size
  modifyWorld fun world => { world with opened := world.opened.push file }
  return number

/-- Makes a descriptor lead to an open file, or to none. -/
def setDescriptor (descriptor : Nat) (number : Option Nat) : Run Unit :=
  modifyProcess fun process =>
    let others := process.descriptors.filter fun entry => entry.1 != descriptor
    { process with
      descriptors := match number with
        | some number => (descriptor, number) :: others
        | none => others }

/-- Writes to a descriptor; false if it cannot be written to. -/
def write (descriptor : Nat) (text : Text) : Run Bool := do
  match ← openFile? descriptor with
  | none => return false
  | some (number, file) =>
    if !file.canWrite then return false
    else
      match file.channel with
      | .sink => return true
      | .directory => return false
      | .pipe content =>
        setOpenFile number { file with channel := .pipe (content ++ text) }
        return true
      | .file location =>
        match (← world).files.node? location with
        | some (.file bytes executable) =>
          let content := Bytes.ofByteArray bytes
          let position := if file.appends then content.length else file.position
          let after := Bytes.toByteArray (splice content position text)
          modifyFiles fun files => files.set location (some (.file after executable))
          setOpenFile number { file with position := position + text.length }
          return true
        | _ => return true

/-- What can still be read from a descriptor; none if it cannot be read from. -/
def unread? (descriptor : Nat) : Run (Option Text) := do
  match ← openFile? descriptor with
  | none => return none
  | some (_, file) =>
    if !file.canRead then return none
    else
      match file.channel with
      | .sink => return some []
      | .directory => return none
      | .pipe content => return some (content.drop file.position)
      | .file location =>
        match (← world).files.node? location with
        | some (.file bytes _) => return some ((Bytes.ofByteArray bytes).drop file.position)
        | _ => return some []

/-- Passes what was read from a descriptor. -/
def skip (descriptor size : Nat) : Run Unit := do
  match ← openFile? descriptor with
  | none => return
  | some (number, file) => setOpenFile number { file with position := file.position + size }

/-- Reads all that is left of a descriptor. -/
def readAll? (descriptor : Nat) : Run (Option Text) := do
  match ← unread? descriptor with
  | none => return none
  | some text =>
    skip descriptor text.length
    return some text

/-- What stands where a path leads. -/
def find (path : Text) : Run (Except FileError (Location × Node)) := do
  match Bytes.toString? path with
  | none => return .error .notFound
  | some name => return (← world).files.find (← process).working name

/-- Where the last entry of a path is or would be. -/
def place (path : Text) : Run (Except FileError (Location × Option Node)) := do
  match Bytes.toString? path with
  | none => return .error .badPath
  | some name => return (← world).files.place (← process).working name

/-- Opens the file at a path. A file that is written anew is emptied, or made if it is missing; one
that is there must not be if `keeps`. -/
def openPath (opening : Opening) (keeps : Bool) (path : Text) : Run (Except FileError Nat) := do
  let canRead := opening == .read || opening == .readWrite
  let canWrite := opening != .read
  let file (channel : Channel) : OpenFile := ⟨channel, 0, canRead, canWrite, opening == .append⟩
  match ← place path with
  | .error error => return .error error
  | .ok (location, node) =>
    match node with
    | some .sink => return .ok (← addOpenFile (file .sink))
    | some .directory =>
      if canWrite then return .error .isDirectory
      else return .ok (← addOpenFile (file .directory))
    | some (.file _ executable) =>
      if opening == .write || opening == .rewrite then
        if keeps && opening == .write then return .error .taken
        modifyFiles fun files => files.set location (some (.file .empty executable))
      return .ok (← addOpenFile (file (.file location)))
    | none =>
      if !canWrite then return .error .notFound
      modifyFiles fun files => files.set location (some (.file .empty false))
      return .ok (← addOpenFile (file (.file location)))

/-- Runs a computation with other descriptors, and then has those from before again. -/
def withDescriptors {α : Type} (action : Run α) : Run α := do
  let before := (← process).descriptors
  followedBy action (modifyProcess fun process => { process with descriptors := before })

end Run

end GoAssist.Shell
