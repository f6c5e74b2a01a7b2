import GoAssist.Protocol.Schema

/-!
# Capabilities of an editor

An editor says what it can do when a session begins. Everything may be left out, but what is there has
to be as the protocol says.
-/

namespace GoAssist.Schema

/-! ## Parts that many capabilities share -/

/-- A member that is true or false if it is there. -/
def flag (name : String) : String × Schema :=
  (name, .optional .bool)

/-- Members that are true or false if they are there. -/
def flags (names : List String) : List (String × Schema) :=
  names.map flag

/-- A part that may be left out, with its members. -/
def part (name : String) (members : List (String × Schema)) : String × Schema :=
  (name, .optional (.record members))

/-- A part that only says whether it may be registered later. -/
def dynamic (name : String) : String × Schema :=
  part name [flag "dynamicRegistration"]

/-- A part that only says whether it may be refreshed. -/
def refreshable (name : String) : String × Schema :=
  part name [flag "refreshSupport"]

/-- The tags that are known; an older form says only whether tags are. -/
def tagSupport : String × Schema :=
  ("tagSupport", .lacking (.either .bool (.optional (.record [("valueSet", .list .int32)]))))

/-- The properties that may be asked for later. -/
def resolveSupport : String × Schema :=
  part "resolveSupport" [("properties", .list .string)]

/-- The kinds that are known. -/
def valueSet : String × Schema :=
  ("valueSet", .optional (.list .int32))

/-- The forms of text that are shown, the best first. -/
def formats (name : String) : String × Schema :=
  (name, .optional (.list (.oneOf ["plaintext", "markdown"])))

/-- A part about places, which says whether they may be links. -/
def linked (name : String) : String × Schema :=
  part name (flags ["dynamicRegistration", "linkSupport"])

/-! ## Capabilities -/

/-- What an editor can do with a workspace. -/
def workspaceCapabilities : List (String × Schema) := [
  flag "applyEdit",
  part "workspaceEdit" [
    flag "documentChanges",
    ("resourceOperations", .optional (.list (.oneOf ["create", "rename", "delete"]))),
    ("failureHandling",
      .optional (.oneOf ["abort", "transactional", "textOnlyTransactional", "undo"])),
    flag "normalizesLineEndings",
    part "changeAnnotationSupport" [flag "groupsOnLabel"]],
  dynamic "didChangeConfiguration",
  part "didChangeWatchedFiles" (flags ["dynamicRegistration", "relativePatternSupport"]),
  part "symbol" [flag "dynamicRegistration", part "symbolKind" [valueSet], tagSupport,
    resolveSupport],
  dynamic "executeCommand",
  flag "workspaceFolders",
  flag "configuration",
  refreshable "semanticTokens",
  refreshable "codeLens",
  part "fileOperations" (flags ["dynamicRegistration", "didCreate", "willCreate", "didRename",
    "willRename", "didDelete", "willDelete"]),
  refreshable "inlineValue",
  refreshable "inlayHint",
  refreshable "diagnostic"]

/-- What an editor can do with completions. -/
def completionCapabilities : List (String × Schema) := [
  flag "dynamicRegistration",
  part "completionItem" [
    flag "snippetSupport",
    flag "commitCharactersSupport",
    formats "documentationFormat",
    flag "deprecatedSupport",
    flag "preselectSupport",
    tagSupport,
    flag "insertReplaceSupport",
    resolveSupport,
    part "insertTextModeSupport" [("valueSet", .list .int32)],
    flag "labelDetailsSupport"],
  part "completionItemKind" [valueSet],
  flag "contextSupport",
  ("insertTextMode", .optional .int32),
  part "completionList" [("itemDefaults", .optional (.list .string))]]

/-- What an editor can do with the meaning of words. -/
def semanticTokensCapabilities : List (String × Schema) := [
  flag "dynamicRegistration",
  ("requests", .record [
    flag "range",
    ("full", .optional (.either .bool (.object [flag "delta"] .any)))]),
  ("tokenTypes", .list .string),
  ("tokenModifiers", .list .string),
  ("formats", .list .string),
  flag "overlappingTokenSupport",
  flag "multilineTokenSupport",
  flag "serverCancelSupport",
  flag "augmentsSyntaxTokens"]

/-- What an editor can do with documents. -/
def documentCapabilities : List (String × Schema) := [
  part "synchronization" (flags ["dynamicRegistration", "willSave", "willSaveWaitUntil", "didSave"]),
  part "completion" completionCapabilities,
  part "hover" [flag "dynamicRegistration", formats "contentFormat"],
  part "signatureHelp" [
    flag "dynamicRegistration",
    part "signatureInformation" [
      formats "documentationFormat",
      part "parameterInformation" [flag "labelOffsetSupport"],
      flag "activeParameterSupport"],
    flag "contextSupport"],
  dynamic "references",
  dynamic "documentHighlight",
  part "documentSymbol" [flag "dynamicRegistration", part "symbolKind" [valueSet],
    flag "hierarchicalDocumentSymbolSupport", tagSupport],
  dynamic "formatting",
  dynamic "rangeFormatting",
  dynamic "onTypeFormatting",
  linked "declaration",
  linked "definition",
  linked "typeDefinition",
  linked "implementation",
  part "codeAction" [
    flag "dynamicRegistration",
    part "codeActionLiteralSupport" [("codeActionKind", .record [("valueSet", .list .string)])],
    flag "isPreferredSupport",
    flag "disabledSupport",
    flag "dataSupport",
    resolveSupport,
    flag "honorsChangeAnnotations"],
  dynamic "codeLens",
  part "documentLink" (flags ["dynamicRegistration", "tooltipSupport"]),
  dynamic "colorProvider",
  part "rename" [flag "dynamicRegistration", flag "prepareSupport",
    ("prepareSupportDefaultBehavior", .optional .int32), flag "honorsChangeAnnotations"],
  part "publishDiagnostics" [flag "relatedInformation", tagSupport, flag "versionSupport",
    flag "codeDescriptionSupport", flag "dataSupport"],
  part "foldingRange" [
    flag "dynamicRegistration",
    ("rangeLimit", .optional .nat32),
    flag "lineFoldingOnly",
    part "foldingRangeKind"
      [("valueSet", .optional (.list (.oneOf ["comment", "imports", "region"])))],
    part "foldingRange" [flag "collapsedText"]],
  dynamic "selectionRange",
  dynamic "linkedEditingRange",
  dynamic "callHierarchy",
  part "semanticTokens" semanticTokensCapabilities,
  dynamic "moniker",
  dynamic "typeHierarchy",
  dynamic "inlineValue",
  part "inlayHint" [flag "dynamicRegistration", resolveSupport],
  part "diagnostic" (flags ["dynamicRegistration", "relatedDocumentSupport"])]

/-- What an editor can do with its windows. -/
def windowCapabilities : List (String × Schema) := [
  flag "workDoneProgress",
  part "showMessage" [part "messageActionItem" [flag "additionalPropertiesSupport"]],
  part "showDocument" [("support", .bool)]]

/-- What an editor can do besides. -/
def generalCapabilities : List (String × Schema) := [
  part "regularExpressions" [("engine", .string), ("version", .optional .string)],
  part "markdown" [("parser", .string), ("version", .optional .string),
    ("allowedTags", .optional (.list .string))],
  part "staleRequestSupport" [("cancel", .bool), ("retryOnContentModified", .list .string)],
  ("positionEncodings", .optional (.list .string))]

/-- What an editor can do. -/
def capabilities : Schema :=
  .record [
    part "workspace" workspaceCapabilities,
    part "textDocument" documentCapabilities,
    part "window" windowCapabilities,
    part "general" generalCapabilities,
    ("experimental", .optional .any)]

end GoAssist.Schema
