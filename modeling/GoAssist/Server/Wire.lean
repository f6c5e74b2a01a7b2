import GoAssist.Server.Session

/-!
# Answers as JSON

The form in which an editor gets the answers of a session, by the language server protocol.
-/

namespace GoAssist

/-- The server's name. -/
def serverName : String := "gopad-lsp"

/-- The version of both programs. -/
def version : String := "0.1.0"

/-- A position as JSON. -/
def Position.toJson (position : Position) : Json :=
  .object [("line", .ofNat position.line.toNat), ("character", .ofNat position.character.toNat)]

/-- A range as JSON. -/
def TextRange.toJson (range : TextRange) : Json :=
  .object [("start", range.start.toJson), ("end", range.stop.toJson)]

/-- The protocol's number for a kind of item. -/
def CandidateKind.code : CandidateKind → Nat
  | .function => 3
  | .variable => 6
  | .module => 9
  | .keyword => 14
  | .snippet => 15
  | .constant => 21
  | .type => 25

/-- The protocol's number for text without and with tab stops. -/
def textFormat (isSnippet : Bool) : Nat :=
  if isSnippet then 2 else 1

/-- An item as JSON. -/
def Item.toJson (item : Item) : Json :=
  .object (
    [("label", .string item.label), ("kind", .ofNat item.kind.code)]
      ++ item.detail.toList.map (fun detail => ("detail", .string detail))
      ++ [("insertTextFormat", .ofNat (textFormat item.isSnippet)),
        ("textEdit",
          .object [("range", item.range.toJson), ("newText", .string item.newText)])])

/-- Hover text as JSON. -/
def HoverAnswer.toJson (answer : HoverAnswer) : Json :=
  .object [("contents", .ofStrings answer.contents), ("range", answer.range.toJson)]

/-- What the server can do: it takes whole texts, hovers, and completes also when a dot is typed. -/
def initializeResult : Json :=
  .object [
    ("capabilities", .object [
      ("textDocumentSync", .ofNat 1),
      ("hoverProvider", .bool true),
      ("completionProvider", .object [("triggerCharacters", .ofStrings ["."])])]),
    ("serverInfo", .object [("name", .string serverName), ("version", .string version)])]

/-- A reply as JSON. -/
def Reply.toJson : Reply → Json
  | .done => .null
  | .capabilities => initializeResult
  | .hover none => .null
  | .hover (some answer) => answer.toJson
  | .items none => .null
  | .items (some answer) => .array (answer.map Item.toJson)

end GoAssist
