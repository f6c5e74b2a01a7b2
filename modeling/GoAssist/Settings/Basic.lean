import GoAssist.Json.Printer
import GoAssist.Json.Reader

/-!
# Settings

The settings of an editor are the path of the Go program and perhaps a workspace folder. They are
kept as a JSON object; a folder that is not set is left out. The reader takes members in any order,
passes over those it does not know, and takes the two values as an array as well.
-/

namespace GoAssist

/-- The settings of an editor. -/
structure Settings where
  /-- The path of the Go program; empty if it is to be looked for. -/
  goPath : String
  /-- The folder that the editor works in. -/
  workspaceFolder : Option String
  deriving DecidableEq, Repr, Inhabited

namespace Settings

/-- Settings in which nothing is set. -/
def unset : Settings :=
  ⟨"", none⟩

/-- The settings as JSON. -/
def toJson (settings : Settings) : Json :=
  .object (("goPath", .string settings.goPath)
    :: settings.workspaceFolder.toList.map fun folder => ("workspaceFolder", .string folder))

/-- The settings as the text of a file. -/
def toText (settings : Settings) : String :=
  settings.toJson.pretty

/-- The path that a value spells. -/
def goPath? : RawJson → Option String
  | .string raw => raw.decode
  | _ => none

/-- The folder that a value spells; `null` spells none. -/
def workspaceFolder? : RawJson → Option (Option String)
  | .null => some none
  | .string raw => raw.decode.map some
  | _ => none

/-- What the members of an object have said so far. -/
structure Draft where
  /-- The path, if a member gave it. -/
  goPath : Option String
  /-- The folder or its absence, if a member gave it. -/
  workspaceFolder : Option (Option String)

/-- Takes up one member. Every name has to be a proper text, and neither setting may be given
twice. -/
def Draft.add (draft : Draft) (member : RawString × RawJson) : Option Draft := do
  let name ← member.1.decode
  if name = "goPath" then
    if draft.goPath.isSome then none
    else return { draft with goPath := some (← goPath? member.2) }
  else if name = "workspaceFolder" then
    if draft.workspaceFolder.isSome then none
    else return { draft with workspaceFolder := some (← workspaceFolder? member.2) }
  else some draft

/-- The settings that a draft comes to. -/
def Draft.settings (draft : Draft) : Settings :=
  ⟨draft.goPath.getD "", draft.workspaceFolder.getD none⟩

/-- The settings that a value spells. -/
def ofRawJson? : RawJson → Option Settings
  | .object members => (members.foldlM Draft.add ⟨none, none⟩).map Draft.settings
  | .array [] => some unset
  | .array [path] => do return ⟨← goPath? path, none⟩
  | .array [path, folder] => do return ⟨← goPath? path, ← workspaceFolder? folder⟩
  | _ => none

/-- The settings that the text of a file spells. -/
def ofText? (text : String) : Option Settings :=
  (RawJson.ofText? text).bind ofRawJson?

end Settings

end GoAssist
