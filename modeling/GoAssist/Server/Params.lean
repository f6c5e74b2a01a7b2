import GoAssist.Protocol.Capabilities
import GoAssist.Protocol.Requests
import GoAssist.Server.Session

/-!
# The parameters of requests

What an editor sends along with a request or a notification, read into a `Call`. The parameters have
to be as their schema says; then their parts are looked up, each at its name or at its place.
-/

namespace GoAssist.Params

open Json Schema

/-! ## Schemas -/

/-- The parameters of the request that begins a session. -/
def beginSchema : Schema :=
  .record [
    ("processId", .optional .nat32),
    ("rootPath", .optional .string),
    ("rootUri", .optional .address),
    ("initializationOptions", .optional .any),
    ("capabilities", capabilities),
    ("trace", .lacking (.optional (.oneOf ["off", "messages", "verbose"]))),
    ("workspaceFolders", .optional (.list (.record [("uri", .address), ("name", .string)]))),
    ("clientInfo", .optional (.record [("name", .string), text? "version"])),
    ("locale", .optional .string)]

/-- A document with its text. -/
def openSchema : Schema :=
  .record [("textDocument",
    .record [("uri", .address), ("languageId", .string), ("version", .int32), ("text", .string)])]

/-- New texts of a document. -/
def changeSchema : Schema :=
  .record [
    ("textDocument", .record [("uri", .address), ("version", .int32)]),
    ("contentChanges", .list
      (.record [("range", .optional range), ("rangeLength", .optional .nat32),
        ("text", .string)]))]

/-- A document that is closed. -/
def closeSchema : Schema :=
  .record [document]

/-- A place that is to be completed. -/
def completionSchema : Schema :=
  placeIn [partialResult,
    ("context", .optional (.record [("triggerKind", .int32), text? "triggerCharacter"]))]

/-! ## Parts -/

/-- The parts of the given names: those of an object by name, those of an array by place. -/
def fields? (names : List String) : Json → Option (List (Option Json))
  | .object members => some (names.map (memberNamed? members))
  | .array items => if items.length = names.length then some (items.map some) else none
  | _ => none

/-- The address that a value spells, in its one form. -/
def uri? (json : Json) : Option String :=
  json.toString?.bind Uri.normalize?

/-- A position. -/
def position? (json : Json) : Option Position :=
  match fields? ["line", "character"] json with
  | some [some line, some character] => do
    let line ← line.toNatBelow? UInt32.size
    let character ← character.toNatBelow? UInt32.size
    return ⟨.ofNat line, .ofNat character⟩
  | _ => none

/-- The one part of a value. -/
def onlyField? (name : String) (json : Json) : Option Json :=
  match fields? [name] json with
  | some [part] => part
  | _ => none

/-- A value, if a schema accepts it. -/
def checked? (schema : Schema) (json : Json) : Option Json :=
  if schema.accepts json then some json else none

/-- The document and the position of a request about a place. -/
def place? (params : Json) : Option (String × Position) := do
  let uri ← uri? (← onlyField? "uri" (← params.member? "textDocument"))
  return (uri, ← position? (← params.member? "position"))

/-! ## Calls -/

/-- The call of an `initialize` request. -/
def begin? (params : Json) : Option Call := do
  let params ← checked? beginSchema params
  match params with
  | .array items => return .begin items[3]?
  | _ => return .begin (params.member? "initializationOptions")

/-- The call of an `initialized` notification. -/
def initialized? (params : Json) : Option Call :=
  (checked? (.record []) params).map fun _ => .initialized

/-- The call of a `textDocument/didOpen` notification. -/
def didOpen? (params : Json) : Option Call := do
  let document ← onlyField? "textDocument" (← checked? openSchema params)
  match fields? ["uri", "languageId", "version", "text"] document with
  | some [some uri, some language, _, some text] =>
    return .didOpen (← uri? uri) (← language.toString?) (← text.toString?)
  | _ => none

/-- The new text of a change. -/
def changeText? (json : Json) : Option String :=
  match fields? ["range", "rangeLength", "text"] json with
  | some [_, _, some text] => text.toString?
  | _ => none

/-- The call of a `textDocument/didChange` notification. -/
def didChange? (params : Json) : Option Call := do
  match fields? ["textDocument", "contentChanges"] (← checked? changeSchema params) with
  | some [some document, some (.array changes)] =>
    match fields? ["uri", "version"] document with
    | some [some uri, _] => return .didChange (← uri? uri) (← changes.mapM changeText?)
    | _ => none
  | _ => none

/-- The call of a `textDocument/didClose` notification. -/
def didClose? (params : Json) : Option Call := do
  let document ← onlyField? "textDocument" (← checked? closeSchema params)
  return .didClose (← uri? (← onlyField? "uri" document))

/-- The call of a `textDocument/hover` request. -/
def hover? (params : Json) : Option Call := do
  let (uri, position) ← place? (← checked? (placeIn []) params)
  return .hover uri position

/-- The call of a `textDocument/completion` request. -/
def completion? (params : Json) : Option Call := do
  let (uri, position) ← place? (← checked? completionSchema params)
  return .completion uri position

/-- A position that is read is as the schema of positions says. -/
theorem accepts_of_position? {json : Json} {found : Position} (h : position? json = some found) :
    Schema.position.accepts json = true := by
  unfold position? at h
  split at h
  · rename_i line character hfields
    obtain ⟨a, ha, h⟩ := Option.bind_eq_some_iff.mp h
    obtain ⟨b, hb, _⟩ := Option.bind_eq_some_iff.mp h
    cases json with
    | object members =>
      simp only [fields?, List.map_cons, List.map_nil, Option.some.injEq, List.cons.injEq] at hfields
      simp [Schema.position, accepts, acceptsMembers, hfields.1, hfields.2.1, ha, hb]
    | array items =>
      simp only [fields?] at hfields
      split at hfields
      · rcases items with _ | ⟨first, _ | ⟨second, _ | ⟨third, rest⟩⟩⟩ <;>
          simp only [List.map_cons, List.map_nil, Option.some.injEq, List.cons.injEq, reduceCtorEq,
            and_false] at hfields
        obtain ⟨rfl, rfl, _⟩ := hfields
        simp [Schema.position, accepts, acceptsItems, ha, hb]
      · simp at hfields
    | _ => simp [fields?] at hfields
  · simp at h

end GoAssist.Params
