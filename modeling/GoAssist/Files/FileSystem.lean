import GoAssist.Files.Path

/-!
# A file system

Files and directories by their locations, without links. Paths are followed from the root or from a
working directory, and an operation fails for the reason that is met first. Writing changes one file
only (`node?_writeFile_of_ne`), and making directories changes no file
(`node?_makeDirectories_of_some`).
-/

namespace GoAssist

/-- Bytes are compared in one way, whichever libraries are imported. -/
local instance decidableEqByteArray : DecidableEq ByteArray :=
  ByteArray.instDecidableEq

/-- What stands at a location. -/
inductive Node where
  | directory
  | file (content : ByteArray) (executable : Bool)
  /-- A file that is always empty and forgets what is written to it. -/
  | sink
  deriving DecidableEq, Inhabited

/-- A place in the tree of directories: the names on the way to it, the last one first. -/
abbrev Location := List String

/-- The absolute path of a location. -/
def Location.toPath (location : Location) : String :=
  "/" ++ "/".intercalate location.reverse

/-- Where a step leads if nothing is in its way. -/
def Location.move (location : Location) : Component → Location
  | .current => location
  | .parent => location.tail
  | .name text => text :: location

/-- All places on the way from a location, itself included. -/
def Location.onWay (location : Location) : List Component → List Location
  | [] => [location]
  | step :: steps => location :: Location.onWay (Location.move location step) steps

/-- Why a file operation fails. -/
inductive FileError where
  /-- Nothing stands there. -/
  | notFound
  /-- A file stands where a directory is needed. -/
  | notDirectory
  /-- A directory stands where a file is needed. -/
  | isDirectory
  /-- Something stands where nothing may. -/
  | taken
  /-- A name or the whole path is too long. -/
  | tooLong
  /-- The path holds a character that no path may hold. -/
  | badPath
  /-- The content is not text. -/
  | notText
  /-- The rights to do so are missing. No operation here asks for rights. -/
  | denied
  deriving DecidableEq, Repr, Inhabited

/-- Files and directories by location. -/
structure FileSystem where
  /-- What stands where, each location once. -/
  entries : List (Location × Node)
  deriving DecidableEq

/-- How many bytes a name may have. -/
def maxNameSize : Nat := 255

/-- How many bytes a path may have. -/
def maxPathSize : Nat := 4095

namespace FileSystem

/-- A file system in which nothing stands anywhere. -/
def empty : FileSystem := ⟨[]⟩

/-- What stands at a location, if anything does. -/
def node? (files : FileSystem) (location : Location) : Option Node :=
  files.entries.lookup location

/-- A file system in which one location was changed. -/
def set (files : FileSystem) (location : Location) (node : Option Node) : FileSystem :=
  let others := files.entries.filter fun entry => entry.1 != location
  match node with
  | some node => ⟨(location, node) :: others⟩
  | none => ⟨others⟩

/-- A file system without what stands at a location or below it. -/
def remove (files : FileSystem) (location : Location) : FileSystem :=
  ⟨files.entries.filter fun entry => !location.isSuffixOf entry.1⟩

/-- The names of what stands in a directory. -/
def names (files : FileSystem) (location : Location) : List String :=
  files.entries.filterMap fun entry =>
    match entry.1 with
    | name :: above => if above = location then some name else none
    | [] => none

/-- Takes one step along a path. -/
def enter (files : FileSystem) (location : Location) (component : Component) :
    Except FileError Location :=
  match files.node? location with
  | none => .error .notFound
  | some .directory =>
    match component with
    | .current => .ok location
    | .parent => .ok location.tail
    | .name text =>
      if maxNameSize < text.utf8ByteSize then .error .tooLong
      else if (files.node? (text :: location)).isSome then .ok (text :: location)
      else .error .notFound
  | some _ => .error .notDirectory

/-- Takes the steps along a path. -/
def walk (files : FileSystem) (location : Location) (steps : List Component) :
    Except FileError Location :=
  steps.foldlM files.enter location

/-- Whether a path can be followed at all. -/
def checkPath (path : String) : Except FileError Unit :=
  if path.isEmpty then .error .notFound
  else if path.toList.contains '\x00' then .error .badPath
  else if maxPathSize < path.utf8ByteSize then .error .tooLong
  else .ok ()

/-- The location from which a path is followed. -/
def origin (working : Location) (path : String) : Location :=
  if Path.isAbsolute path then [] else working

/-- What a path leads to, and where it stands. -/
def find (files : FileSystem) (working : Location) (path : String) :
    Except FileError (Location × Node) := do
  checkPath path
  let location ← files.walk (origin working path) (Path.components path)
  match files.node? location with
  | some node => .ok (location, node)
  | none => .error .notFound

/-- Whether a path leads anywhere. -/
def pathExists (files : FileSystem) (working : Location) (path : String) : Bool :=
  match files.find working path with
  | .ok _ => true
  | .error _ => false

/-- Whether a path leads to a file with content. -/
def isFile (files : FileSystem) (working : Location) (path : String) : Bool :=
  match files.find working path with
  | .ok (_, .file _ _) => true
  | _ => false

/-- Whether a path leads to a directory. -/
def isDirectory (files : FileSystem) (working : Location) (path : String) : Bool :=
  match files.find working path with
  | .ok (_, .directory) => true
  | _ => false

/-- The bytes of a file. -/
def readBytes (files : FileSystem) (working : Location) (path : String) :
    Except FileError ByteArray := do
  match ← files.find working path with
  | (_, .directory) => .error .isDirectory
  | (_, .file content _) => .ok content
  | (_, .sink) => .ok .empty

/-- The text of a file. -/
def readText (files : FileSystem) (working : Location) (path : String) :
    Except FileError String := do
  match String.fromUTF8? (← files.readBytes working path) with
  | some text => .ok text
  | none => .error .notText

/-- Where the last entry of a path is or would be, and what stands there. -/
def place (files : FileSystem) (working : Location) (path : String) :
    Except FileError (Location × Option Node) := do
  checkPath path
  match (Path.components path).getLast? with
  | some (.name text) =>
    let directory ← files.walk (origin working path) (Path.components path).dropLast
    match files.node? directory with
    | some .directory =>
      if maxNameSize < text.utf8ByteSize then .error .tooLong
      else .ok (text :: directory, files.node? (text :: directory))
    | some _ => .error .notDirectory
    | none => .error .notFound
  | _ =>
    let location ← files.walk (origin working path) (Path.components path)
    .ok (location, files.node? location)

/-- Puts content where a file may stand; whether a file can be run stays. -/
def fill (files : FileSystem) (location : Location) (content : ByteArray) :
    Except FileError FileSystem :=
  match files.node? location with
  | none => .ok (files.set location (some (.file content false)))
  | some (.file _ executable) => .ok (files.set location (some (.file content executable)))
  | some .directory => .error .isDirectory
  | some .sink => .ok files

/-- Writes a file, which is made if its directory is there. -/
def writeFile (files : FileSystem) (working : Location) (path : String) (content : ByteArray) :
    Except FileError FileSystem := do
  let (location, _) ← files.place working path
  files.fill location content

/-- Where a directory can be made for a step: a name in a directory that has no such entry. -/
def missingChild? (files : FileSystem) (location : Location) (step : Component) :
    Option Location :=
  match files.node? location, step with
  | some .directory, .name text =>
    if text.utf8ByteSize ≤ maxNameSize ∧ files.node? (text :: location) = none then
      some (text :: location)
    else none
  | _, _ => none

/-- Takes the steps from a location and makes each directory that is missing. What was made stays
also if a later step fails. -/
def makeDirectories (files : FileSystem) (location : Location) :
    List Component → FileSystem × Except FileError Unit
  | [] =>
    match files.node? location with
    | some .directory => (files, .ok ())
    | _ => (files, .error .notDirectory)
  | step :: steps =>
    match files.missingChild? location step with
    | some missing => (files.set missing (some .directory)).makeDirectories missing steps
    | none =>
      match files.enter location step with
      | .ok next => files.makeDirectories next steps
      | .error error => (files, .error error)

/-- Makes a directory and those above it that are missing. -/
def makePath (files : FileSystem) (working : Location) (path : String) :
    FileSystem × Except FileError Unit :=
  match checkPath path with
  | .ok () => files.makeDirectories (origin working path) (Path.components path)
  | .error error => (files, .error error)

/-- Makes the directories above the last entry of a path that are missing. -/
def makeParents (files : FileSystem) (working : Location) (path : String) :
    FileSystem × Except FileError Unit :=
  match Path.parent? path with
  | none => (files, .ok ())
  | some parent => if parent.isEmpty then (files, .ok ()) else files.makePath working parent

/-! ## What operations leave alone -/

theorem lookup_filter_of_ne {location other : Location} (entries : List (Location × Node))
    (hne : other ≠ location) :
    (entries.filter fun entry => entry.1 != location).lookup other = entries.lookup other := by
  induction entries with
  | nil => rfl
  | cons entry rest ih =>
    by_cases hentry : entry.1 = location
    · have hbeq : (other == entry.1) = false := by simpa [hentry] using hne
      rw [List.filter_cons_of_neg (by simp [hentry]), ih, List.lookup_cons, hbeq]
    · rw [List.filter_cons_of_pos (by simp [hentry]), List.lookup_cons, List.lookup_cons, ih]

theorem lookup_filter_self {location : Location} (entries : List (Location × Node)) :
    (entries.filter fun entry => entry.1 != location).lookup location = none := by
  rw [List.lookup_eq_none_iff]
  intro entry hentry
  have hne := (List.mem_filter.1 hentry).2
  simp only [bne_iff_ne] at hne
  simpa using fun h => hne h.symm

theorem node?_set (files : FileSystem) (location other : Location) (node : Option Node) :
    (files.set location node).node? other
      = if other = location then node else files.node? other := by
  unfold set node?
  by_cases hother : other = location
  · subst hother
    cases node with
    | none => simpa using lookup_filter_self files.entries
    | some node => simp
  · rw [if_neg hother]
    cases node with
    | none => exact lookup_filter_of_ne files.entries hother
    | some node =>
      have hbeq : (other == location) = false := by simpa using hother
      simp only [List.lookup_cons, hbeq]
      exact lookup_filter_of_ne files.entries hother

/-- Filling a file leaves all else. -/
theorem node?_fill_of_ne {files after : FileSystem} {location other : Location}
    {content : ByteArray} (h : files.fill location content = .ok after)
    (hne : other ≠ location) : after.node? other = files.node? other := by
  unfold fill at h
  split at h
  · cases h
    rw [node?_set, if_neg hne]
  · cases h
    rw [node?_set, if_neg hne]
  · cases h
  · cases h
    rfl

/-- Writing changes one file only. -/
theorem node?_writeFile_of_ne {files after : FileSystem} {working location : Location}
    {path : String} {content : ByteArray} {node : Option Node}
    (hplace : files.place working path = .ok (location, node))
    (hwrite : files.writeFile working path content = .ok after) {other : Location}
    (hne : other ≠ location) : after.node? other = files.node? other := by
  simp only [writeFile, hplace, bind, Except.bind] at hwrite
  exact node?_fill_of_ne hwrite hne

theorem node?_of_missingChild? {files : FileSystem} {location missing : Location}
    {step : Component} (h : files.missingChild? location step = some missing) :
    files.node? missing = none := by
  unfold missingChild? at h
  split at h
  · split at h
    · rename_i hmissing
      cases h
      exact hmissing.2
    · simp at h
  · simp at h

/-- Making directories leaves all that was there. -/
theorem node?_makeDirectories_of_some {location other : Location} {node : Node} :
    ∀ {files : FileSystem} {steps : List Component}, files.node? other = some node →
      (files.makeDirectories location steps).1.node? other = some node := by
  intro files steps h
  induction steps generalizing files location with
  | nil =>
    unfold makeDirectories
    split <;> exact h
  | cons step steps ih =>
    unfold makeDirectories
    split
    · rename_i missing hmissing
      have hne : other ≠ missing := by
        rintro rfl
        rw [node?_of_missingChild? hmissing] at h
        cases h
      exact ih (by rw [node?_set, if_neg hne]; exact h)
    · split
      · exact ih h
      · exact h

end FileSystem

end GoAssist
