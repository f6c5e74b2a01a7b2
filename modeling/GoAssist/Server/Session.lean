import GoAssist.Json.Value
import GoAssist.Server.Answer
import Std.Data.TreeMap

/-!
# A session with an editor

The editor opens, changes and closes documents and asks about positions in them. The language of the
session is fixed by its first initialization or first opened document, whichever comes first, and
only documents of that language are kept. Requests leave the documents alone. With the debug flag on,
every call also writes what it does to the editor's log.
-/

namespace GoAssist

/-- The state of a session. -/
structure Session where
  /-- Whether every call is logged. -/
  debug : Bool
  /-- The language of the documents, once fixed. -/
  language : Option String
  /-- The open documents by their addresses. -/
  documents : Std.TreeMap String Document

/-- What an editor may ask for. -/
inductive Call where
  /-- Begins the session with the editor's options. -/
  | begin (options : Option Json)
  /-- Says that the editor is ready. -/
  | initialized
  /-- Ends the session. -/
  | shutdown
  | didOpen (uri language text : String)
  /-- Replaces the whole text by each of `texts` in turn. -/
  | didChange (uri : String) (texts : List String)
  | didClose (uri : String)
  | hover (uri : String) (position : Position)
  | completion (uri : String) (position : Position)

/-- What a call is answered with. -/
inductive Reply where
  /-- Nothing. -/
  | done
  /-- What the server can do. -/
  | capabilities
  | hover (answer : Option HoverAnswer)
  /-- The items, or nothing for a document that is not open. -/
  | items (answer : Option (List Item))
  deriving DecidableEq

/-- What a call leads to: the new state, the reply, and lines for the editor's log. -/
structure Turn where
  /-- The state after the call. -/
  session : Session
  /-- The answer. -/
  reply : Reply
  /-- Lines for the log, first one first. -/
  log : List String

/-- The language of a session that no option names. -/
def defaultLanguage : String := "go"

/-- The language that the options name: a member `languageId` of an object, or the one item of an
array. Options that are anything else are as good as none. -/
def languageOf (options : Option Json) : String :=
  match options with
  | some (.object members) =>
    match Json.memberNamed? members "languageId" with
    | some (.string language) => language
    | _ => defaultLanguage
  | some (.array [.string language]) => language
  | _ => defaultLanguage

/-- A position as it is written in the log. -/
def Position.describe (position : Position) : String :=
  "Position \x7b line: " ++ toString position.line.toNat ++ ", character: "
    ++ toString position.character.toNat ++ " \x7d"

namespace Session

/-- A session in which nothing has happened. -/
def start (debug : Bool) : Session :=
  ⟨debug, none, ∅⟩

/-- A line for the log, if every call is logged. -/
def trace (session : Session) (text : String) : List String :=
  if session.debug then ["[DEBUG] " ++ text] else []

/-- Fixes the language unless it is fixed. -/
def fixLanguage (session : Session) (language : String) : Session :=
  { session with language := some (session.language.getD language) }

/-- Answers a call. -/
def step (registry : Registry) (session : Session) : Call → Turn
  | .begin options =>
    ⟨session.fixLanguage (languageOf options), .capabilities,
      session.trace
        ("Symbol registry ready (" ++ toString registry.packages.size ++ " packages)")⟩
  | .initialized =>
    ⟨session, .done,
      session.trace "Server initialized successfully" ++ ["gopad LSP server initialized"]⟩
  | .shutdown => ⟨session, .done, session.trace "Shutting down server"⟩
  | .didOpen uri language text =>
    let fixed := session.fixLanguage defaultLanguage
    if fixed.language = some language then
      ⟨{ fixed with documents := fixed.documents.insert uri (.ofText text) }, .done,
        session.trace ("Document opened: " ++ uri)⟩
    else
      ⟨fixed, .done, session.trace ("Ignoring " ++ uri ++ " (" ++ language ++ ")")⟩
  | .didChange uri texts =>
    match session.documents[uri]? with
    | none => ⟨session, .done, []⟩
    | some document =>
      ⟨{ session with
          documents := session.documents.insert uri (texts.foldl Document.update document) },
        .done, session.trace ("Document changed: " ++ uri)⟩
  | .didClose uri =>
    ⟨{ session with documents := session.documents.erase uri }, .done,
      session.trace ("Document closed: " ++ uri)⟩
  | .hover uri position =>
    ⟨session, .hover (session.documents[uri]?.bind (·.hover? registry position)),
      session.trace ("Hover request at " ++ position.describe)⟩
  | .completion uri position =>
    ⟨session, .items (session.documents[uri]?.map (·.items registry position)),
      session.trace ("Completion request at " ++ position.describe)⟩

/-! ## What calls leave alone -/

variable {registry : Registry} {session : Session}

/-- No call changes the debug flag. -/
theorem debug_step (call : Call) : (session.step registry call).session.debug = session.debug := by
  cases call with
  | didOpen uri language text =>
    simp only [step]
    split <;> rfl
  | didChange uri texts =>
    simp only [step]
    split <;> rfl
  | _ => rfl

end Session

end GoAssist
