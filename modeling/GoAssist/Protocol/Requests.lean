import GoAssist.Protocol.Schema

/-!
# Requests of the protocol

The schemas of the parameters of the requests that the protocol has beside those for completions and
explanations.
-/

namespace GoAssist.Schema

/-! ## Parts of many requests -/

/-- A position in a document. -/
def position : Schema :=
  .record [("line", .nat32), ("character", .nat32)]

/-- A range of a document. -/
def range : Schema :=
  .record [("start", position), ("end", position)]

/-- A name for progress, or for a kind of diagnostic. -/
def numberOrText : Schema :=
  .either .int32 .string

/-- The document that a request is about. -/
def document : String × Schema :=
  ("textDocument", .record [("uri", .address)])

/-- The name under which progress is told. -/
def workDone : String × Schema :=
  ("workDoneToken", .optional numberOrText)

/-- The name under which parts of a result are told. -/
def partialResult : String × Schema :=
  ("partialResultToken", .optional numberOrText)

/-- A member that is any value if it is there. -/
def data : String × Schema :=
  ("data", .optional .any)

/-- A member that is a text if it is there. -/
def text? (name : String) : String × Schema :=
  (name, .optional .string)

/-- A member that is true or false if it is there. -/
def bool? (name : String) : String × Schema :=
  (name, .optional .bool)

/-- A member that is a number if it is there. -/
def int? (name : String) : String × Schema :=
  (name, .optional .int32)

/-- The numbers of tags. -/
def tags : String × Schema :=
  ("tags", .optional (.list .int32))

/-- An object with members, whatever others it has. -/
def params (members : List (String × Schema)) : Schema :=
  .object members .any

/-- The parameters of a request about a place in a document. -/
def placeIn (others : List (String × Schema)) : Schema :=
  params (document :: ("position", position) :: workDone :: others)

/-- The parameters of a request about a document. -/
def documentParams (others : List (String × Schema)) : Schema :=
  params (document :: workDone :: others)

/-- A range in some document. -/
def location : Schema :=
  .record [("uri", .address), ("range", range)]

/-- A command that a program can carry out. -/
def command : Schema :=
  .record [("title", .string), ("command", .string), ("arguments", .optional (.list .any))]

/-- A text with its form. -/
def markup : Schema :=
  .record [("kind", .oneOf ["plaintext", "markdown"]), ("value", .string)]

/-- A plain text, or one with its form. -/
def documentation : Schema :=
  .either .string markup

/-! ## Edits -/

/-- A new text for a range. -/
def textEdit : Schema :=
  .record [("range", range), ("newText", .string)]

/-- A new text for a range that is shorter if it is inserted. -/
def insertReplaceEdit : Schema :=
  .record [("newText", .string), ("insert", range), ("replace", range)]

/-- The edits of a document. -/
def documentEdit : Schema :=
  .record [
    ("textDocument", .record [("uri", .address), int? "version"]),
    ("edits", .list (.either textEdit (params [("range", range), ("newText", .string),
      ("annotationId", .string)])))]

/-- How a file is made or renamed. -/
def fileOptions (first second : String) (others : List (String × Schema)) : String × Schema :=
  ("options", .optional (.record (bool? first :: bool? second :: others)))

/-- A file that is made, renamed or deleted. -/
def fileChange : Schema :=
  .either
    (params [("kind", .oneOf ["create"]), ("uri", .address),
      fileOptions "overwrite" "ignoreIfExists" [], text? "annotationId"])
    (.either
      (params [("kind", .oneOf ["rename"]), ("oldUri", .address), ("newUri", .address),
        fileOptions "overwrite" "ignoreIfExists" [], text? "annotationId"])
      (params [("kind", .oneOf ["delete"]), ("uri", .address),
        fileOptions "recursive" "ignoreIfNotExists" [text? "annotationId"]]))

/-- Edits of many documents. -/
def workspaceEdit : Schema :=
  .record [
    ("changes", .optional (.byAddress (.list textEdit))),
    ("documentChanges", .optional (.either (.list documentEdit)
      (.list (.either fileChange documentEdit)))),
    ("changeAnnotations", .optional (.object []
      (.record [("label", .string), bool? "needsConfirmation", text? "description"])))]

/-! ## Diagnostics -/

/-- What is wrong with a range of a document. -/
def diagnostic : Schema :=
  .record [
    ("range", range),
    int? "severity",
    ("code", .optional numberOrText),
    ("codeDescription", .optional (.record [("href", .address)])),
    text? "source",
    ("message", .string),
    ("relatedInformation", .optional (.list
      (.record [("location", location), ("message", .string)]))),
    tags,
    data]

/-! ## Symbols -/

/-- A function among those that call each other. -/
def callItem : Schema :=
  .record [("name", .string), ("kind", .int32), tags, text? "detail", ("uri", .address),
    ("range", range), ("selectionRange", range), data]

/-- A type among those that refine each other. -/
def typeItem : Schema :=
  .record [("name", .string), ("kind", .int32), int? "tags", text? "detail", ("uri", .address),
    ("range", range), ("selectionRange", range), data]

/-- A symbol of a workspace; where it stands may be asked for later. -/
def workspaceSymbol : Schema :=
  .record [("name", .string), ("kind", .int32), tags, text? "containerName",
    ("location", .either location (.record [("uri", .address)])), data]

/-! ## Completion -/

/-- A completion. -/
def completionItem : Schema :=
  .record [
    ("label", .string),
    ("labelDetails", .optional (.record [text? "detail", text? "description"])),
    int? "kind",
    text? "detail",
    ("documentation", .optional documentation),
    bool? "deprecated",
    bool? "preselect",
    text? "sortText",
    text? "filterText",
    text? "insertText",
    int? "insertTextFormat",
    int? "insertTextMode",
    ("textEdit", .optional (.either textEdit insertReplaceEdit)),
    ("additionalTextEdits", .optional (.list textEdit)),
    ("command", .optional command),
    ("commitCharacters", .optional (.list .string)),
    data,
    tags]

/-- The names and parameters of a function. -/
def signature : Schema :=
  .record [
    ("label", .string),
    ("documentation", .optional documentation),
    ("parameters", .optional (.list (.record [
      ("label", .either .string (.record [("start", .nat32), ("end", .nat32)])),
      ("documentation", .optional documentation)]))),
    ("activeParameter", .optional .nat32)]

/-- Why names and parameters are asked for. -/
def signatureContext : Schema :=
  .record [
    ("triggerKind", .int32),
    text? "triggerCharacter",
    ("isRetrigger", .bool),
    ("activeSignatureHelp", .optional (.record [
      ("signatures", .list signature),
      ("activeSignature", .optional .nat32),
      ("activeParameter", .optional .nat32)]))]

/-! ## Hints, links and actions -/

/-- A text between the characters of a document. -/
def inlayHint : Schema :=
  .record [
    ("position", position),
    ("label", .either .string (.list (.record [
      ("value", .string),
      ("tooltip", .optional documentation),
      ("location", .optional location),
      ("command", .optional command)]))),
    int? "kind",
    ("textEdits", .optional (.list textEdit)),
    ("tooltip", .optional documentation),
    bool? "paddingLeft",
    bool? "paddingRight",
    data]

/-- A range that leads somewhere. -/
def documentLink : Schema :=
  .record [("range", range), ("target", .optional .address), text? "tooltip", data]

/-- A command shown at a range. -/
def codeLens : Schema :=
  .record [("range", range), ("command", .optional command), data]

/-- Something that can be done about a range. -/
def codeAction : Schema :=
  .record [
    ("title", .string),
    text? "kind",
    ("diagnostics", .optional (.list diagnostic)),
    ("edit", .optional workspaceEdit),
    ("command", .optional command),
    bool? "isPreferred",
    ("disabled", .optional (.record [("reason", .string)])),
    data]

/-! ## Formatting -/

/-- How a document is to be laid out. -/
def formattingOptions : String × Schema :=
  ("options", .object
    [("tabSize", .nat32), ("insertSpaces", .bool), bool? "trimTrailingWhitespace",
      bool? "insertFinalNewline", bool? "trimFinalNewlines"]
    (.either .bool numberOrText))

/-- The files that an operation is about. -/
def files (names : List String) : Schema :=
  .record [("files", .list (.record (names.map fun name => (name, .string))))]

/-! ## Requests by name -/

/-- The requests about a place in a document. -/
def placeRequests : List (String × Schema) := [
  ("textDocument/declaration", placeIn [partialResult]),
  ("textDocument/definition", placeIn [partialResult]),
  ("textDocument/typeDefinition", placeIn [partialResult]),
  ("textDocument/implementation", placeIn [partialResult]),
  ("textDocument/documentHighlight", placeIn [partialResult]),
  ("textDocument/moniker", placeIn [partialResult]),
  ("textDocument/references",
    placeIn [partialResult, ("context", .record [("includeDeclaration", .bool)])]),
  ("textDocument/prepareCallHierarchy", placeIn []),
  ("textDocument/prepareTypeHierarchy", placeIn []),
  ("textDocument/linkedEditingRange", placeIn []),
  ("textDocument/signatureHelp", placeIn [("context", .optional signatureContext)]),
  ("textDocument/rename", placeIn [("newName", .string)]),
  ("textDocument/prepareRename", .record [document, ("position", position)]),
  ("textDocument/onTypeFormatting",
    params [document, ("position", position), ("ch", .string), formattingOptions])]

/-- The requests about a document. -/
def documentRequests : List (String × Schema) := [
  ("textDocument/documentLink", documentParams [partialResult]),
  ("textDocument/codeLens", documentParams [partialResult]),
  ("textDocument/foldingRange", documentParams [partialResult]),
  ("textDocument/documentSymbol", documentParams [partialResult]),
  ("textDocument/documentColor", documentParams [partialResult]),
  ("textDocument/semanticTokens/full", documentParams [partialResult]),
  ("textDocument/semanticTokens/full/delta",
    documentParams [partialResult, ("previousResultId", .string)]),
  ("textDocument/semanticTokens/range", documentParams [partialResult, ("range", range)]),
  ("textDocument/selectionRange", documentParams [partialResult, ("positions", .list position)]),
  ("textDocument/inlineValue",
    documentParams [("range", range),
      ("context", .record [("frameId", .int32), ("stoppedLocation", range)])]),
  ("textDocument/inlayHint", documentParams [("range", range)]),
  ("textDocument/diagnostic",
    documentParams [partialResult, text? "identifier", text? "previousResultId"]),
  ("textDocument/codeAction",
    documentParams [partialResult, ("range", range),
      ("context", .record [("diagnostics", .list diagnostic),
        ("only", .optional (.list .string)), int? "triggerKind"])]),
  ("textDocument/colorPresentation",
    documentParams [partialResult, ("range", range),
      ("color", .record [("red", .number), ("green", .number), ("blue", .number),
        ("alpha", .number)])]),
  ("textDocument/formatting", documentParams [formattingOptions]),
  ("textDocument/rangeFormatting", documentParams [("range", range), formattingOptions]),
  ("textDocument/willSaveWaitUntil", .record [document, ("reason", .int32)])]

/-- The requests for more about what was answered before. -/
def resolveRequests : List (String × Schema) := [
  ("callHierarchy/incomingCalls", params [("item", callItem), workDone, partialResult]),
  ("callHierarchy/outgoingCalls", params [("item", callItem), workDone, partialResult]),
  ("typeHierarchy/supertypes", params [("item", typeItem), workDone, partialResult]),
  ("typeHierarchy/subtypes", params [("item", typeItem), workDone, partialResult]),
  ("documentLink/resolve", documentLink),
  ("codeLens/resolve", codeLens),
  ("inlayHint/resolve", inlayHint),
  ("completionItem/resolve", completionItem),
  ("codeAction/resolve", codeAction),
  ("workspaceSymbol/resolve", workspaceSymbol)]

/-- The requests about a workspace. -/
def workspaceRequests : List (String × Schema) := [
  ("workspace/symbol", params [("query", .string), workDone, partialResult]),
  ("workspace/diagnostic",
    params [text? "identifier",
      ("previousResultIds", .list (.record [("uri", .address), ("value", .string)])), workDone,
      partialResult]),
  ("workspace/willCreateFiles", files ["uri"]),
  ("workspace/willRenameFiles", files ["oldUri", "newUri"]),
  ("workspace/willDeleteFiles", files ["uri"]),
  ("workspace/executeCommand",
    params [("command", .string), ("arguments", .lacking (.list .any)), workDone])]

/-- The schema of the parameters of a request, by the request's name. -/
def ofRequest? (name : String) : Option Schema :=
  (placeRequests ++ documentRequests ++ resolveRequests ++ workspaceRequests).lookup name

end GoAssist.Schema
