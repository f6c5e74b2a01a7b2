import GoAssist.Server.Message
import GoAssist.Server.Params
import GoAssist.Server.Wire

/-!
# A connection to an editor

Messages name a method; those with an identifier are requests and get a response. A session runs
from an accepted `initialize` request to `shutdown`, and after `exit` nothing is answered. Outside a session
requests are refused and notifications dropped, so the session does not change
(`session_receive_of_uninitialized`).
-/

namespace GoAssist

/-- How far a connection has come. -/
inductive Phase where
  /-- No `initialize` was accepted yet. -/
  | uninitialized
  /-- The session is on. -/
  | initialized
  /-- The session was shut down. -/
  | shutDown
  /-- The connection is closed. -/
  | exited
  deriving DecidableEq, Repr, Inhabited

/-- Why a request is refused. -/
inductive Fault where
  /-- The session has not begun. -/
  | notInitialized
  /-- The request does not fit the phase, or the method is that of a notification. -/
  | invalidRequest
  /-- The parameters are missing or malformed. -/
  | invalidParams
  /-- The method is not known, or known by name but not served. -/
  | methodNotFound (unknown : Option String)
  /-- What arrived cannot be read. -/
  | unreadable
  deriving DecidableEq, Repr

/-- What a message is answered with. -/
inductive Response where
  /-- Nothing. -/
  | silent
  /-- The connection is closed. -/
  | closed
  | result (id : Json) (reply : Reply)
  | fault (id : Json) (fault : Fault)

/-- The protocol's number for a fault. -/
def Fault.code : Fault → Int
  | .notInitialized => -32002
  | .invalidRequest => -32600
  | .invalidParams => -32602
  | .methodNotFound _ => -32601
  | .unreadable => -32700

/-- A fault in words. -/
def Fault.message : Fault → String
  | .notInitialized => "Server not initialized"
  | .invalidRequest => "Invalid request"
  | .invalidParams => "Invalid params"
  | .methodNotFound _ => "Method not found"
  | .unreadable => "Parse error"

/-- What a method asks for. -/
inductive Method where
  /-- The request that begins the session. -/
  | begin
  /-- The request that ends it. -/
  | shutdown
  /-- Closes the connection. -/
  | exit
  /-- A request that is served, read from its parameters. -/
  | request (read : Json → Option Call)
  /-- A notification that is heeded, read from its parameters. -/
  | notification (read : Json → Option Call)
  /-- A request of the protocol that is not served, with the schema of its parameters. -/
  | unservedRequest (schema : Schema)
  /-- A notification of the protocol that is not heeded. -/
  | unheededNotification
  /-- The notification that calls a request off. Every request is answered before it could arrive. -/
  | cancel
  /-- A method that is not part of the protocol. -/
  | unknown

/-- The notifications of the protocol that are not heeded. -/
def unheededNotifications : List String :=
  ["textDocument/willSave", "textDocument/didSave", "workspace/didChangeConfiguration",
   "workspace/didChangeWorkspaceFolders", "workspace/didCreateFiles", "workspace/didRenameFiles",
   "workspace/didDeleteFiles", "workspace/didChangeWatchedFiles"]

/-- The method of a name that is neither served nor heeded. -/
def Method.ofOtherName (name : String) : Method :=
  match Schema.ofRequest? name with
  | some schema => .unservedRequest schema
  | none =>
    if unheededNotifications.contains name then .unheededNotification else .unknown

/-- The method of a name. -/
def Method.ofName (name : String) : Method :=
  match name with
  | "initialize" => .begin
  | "initialized" => .notification Params.initialized?
  | "shutdown" => .shutdown
  | "exit" => .exit
  | "$/cancelRequest" => .cancel
  | "textDocument/didOpen" => .notification Params.didOpen?
  | "textDocument/didChange" => .notification Params.didChange?
  | "textDocument/didClose" => .notification Params.didClose?
  | "textDocument/hover" => .request Params.hover?
  | "textDocument/completion" => .request Params.completion?
  | _ => .ofOtherName name

/-- A connection with its session. -/
structure Connection where
  /-- How far it has come. -/
  phase : Phase
  /-- The session, which calls change only in the phase for it. -/
  session : Session

/-- What a message leads to: the new state, the response, and lines for the editor's log. -/
structure Exchange where
  /-- The state after the message. -/
  connection : Connection
  /-- The answer. -/
  response : Response
  /-- Lines for the log, first one first. -/
  log : List String

namespace Connection

/-- A connection over which nothing was sent. -/
def start (debug : Bool) : Connection :=
  ⟨.uninitialized, .start debug⟩

/-- Answers a request with a fault, and a notification not at all. -/
def refuse (connection : Connection) (message : Message) (fault : Fault) : Exchange :=
  match message.id with
  | none => ⟨connection, .silent, []⟩
  | some id => ⟨connection, .fault id fault, []⟩

/-- Refuses a message for which the session should be on. -/
def refuseOutside (connection : Connection) (message : Message) : Exchange :=
  connection.refuse message
    (if connection.phase = .uninitialized then .notInitialized else .invalidRequest)

/-- Serves a request whose call is `call`, if its parameters are in order. A message of a request's
method without an identifier is dropped. -/
def serve (registry : Registry) (connection : Connection) (message : Message)
    (call : Option Call) (after : Phase) : Exchange :=
  match message.id, call with
  | none, _ => ⟨connection, .silent, []⟩
  | some id, none => ⟨connection, .fault id .invalidParams, []⟩
  | some id, some call =>
    let turn := connection.session.step registry call
    ⟨⟨after, turn.session⟩, .result id turn.reply, turn.log⟩

/-- Heeds a notification whose call is `call`, if its parameters are in order. A message of a
notification's method with an identifier is refused. -/
def heed (registry : Registry) (connection : Connection) (message : Message)
    (call : Option Call) : Exchange :=
  match message.id, call with
  | some id, _ => ⟨connection, .fault id .invalidRequest, []⟩
  | none, none => ⟨connection, .silent, []⟩
  | none, some call =>
    let turn := connection.session.step registry call
    ⟨{ connection with session := turn.session }, .silent, turn.log⟩

/-- Answers a message. -/
def receive (registry : Registry) (connection : Connection) (message : Message) : Exchange :=
  if connection.phase = .exited then ⟨connection, .closed, []⟩
  else
    let isOn := connection.phase = .initialized
    match Method.ofName message.method with
    | .begin =>
      if connection.phase = .uninitialized then
        connection.serve registry message (message.params.bind Params.begin?) .initialized
      else connection.refuse message .invalidRequest
    | .shutdown =>
      if isOn then
        { connection with phase := .shutDown }.serve registry message
          (if message.params.isNone then some .shutdown else none) .shutDown
      else connection.refuseOutside message
    | .exit => ⟨{ connection with phase := .exited }, .silent, []⟩
    | .request read =>
      if isOn then connection.serve registry message (message.params.bind read) .initialized
      else connection.refuseOutside message
    | .notification read =>
      if isOn then connection.heed registry message (message.params.bind read)
      else connection.refuseOutside message
    | .unservedRequest schema =>
      if isOn then
        connection.refuse message
          (if message.params.any schema.accepts then .methodNotFound none else .invalidParams)
      else connection.refuseOutside message
    | .unheededNotification =>
      if isOn then connection.refuse message .invalidRequest
      else connection.refuseOutside message
    | .cancel => connection.refuse message .invalidRequest
    | .unknown =>
      if message.method.startsWith "$/" then ⟨connection, .silent, []⟩
      else connection.refuse message (.methodNotFound (some message.method))

/-- Answers whatever arrives. What is no message is answered as a request without a name. -/
def take (registry : Registry) (connection : Connection) : Incoming → Exchange
  | .message message => connection.receive registry message
  | .response => ⟨connection, .silent, []⟩
  | .unfit => ⟨connection, .fault .null .invalidRequest, []⟩
  | .unreadable => ⟨connection, .fault .null .unreadable, []⟩

/-! ## Messages outside a session -/

variable {registry : Registry} {connection : Connection} {message : Message}

theorem connection_refuse (fault : Fault) :
    (connection.refuse message fault).connection = connection := by
  unfold refuse
  split <;> rfl

theorem connection_refuseOutside :
    (connection.refuseOutside message).connection = connection :=
  connection_refuse _

theorem eq_of_ofName_eq_begin {name : String} (h : Method.ofName name = .begin) :
    name = "initialize" := by
  have hother : Method.ofOtherName name ≠ .begin := by
    unfold Method.ofOtherName
    split
    · simp
    · split <;> simp
  unfold Method.ofName at h
  split at h <;> simp_all

/-- Before the session only `initialize` changes anything in it. -/
theorem session_receive_of_uninitialized (h : connection.phase = .uninitialized)
    (hmethod : message.method ≠ "initialize") :
    (connection.receive registry message).connection.session = connection.session := by
  have hbegin : Method.ofName message.method ≠ .begin := fun hm => hmethod (eq_of_ofName_eq_begin hm)
  simp only [receive, h]
  rw [if_neg (by simp)]
  cases hm : Method.ofName message.method with
  | begin => exact absurd hm hbegin
  | cancel => simp [connection_refuse]
  | unknown =>
    simp only
    split
    · rfl
    · rw [connection_refuse]
  | _ => simp [connection_refuseOutside]

end Connection

/-! ## Responses as JSON -/

/-- A fault as JSON. -/
def Fault.toJson (fault : Fault) : Json :=
  .object (
    [("code", .number (toString fault.code)), ("message", .string fault.message)]
      ++ match fault with
        | .methodNotFound (some name) => [("data", .string name)]
        | _ => [])

/-- A response as JSON, if there is one. -/
def Response.toJson? : Response → Option Json
  | .silent => none
  | .closed => none
  | .result id reply =>
    some (.object [("jsonrpc", .string "2.0"), ("result", reply.toJson), ("id", id)])
  | .fault id cause =>
    some (.object [("jsonrpc", .string "2.0"), ("error", cause.toJson), ("id", id)])

/-- A line of the log as a message to the editor. -/
def logNotification (line : String) : Json :=
  .object [
    ("jsonrpc", .string "2.0"),
    ("method", .string "window/logMessage"),
    ("params", .object [("type", .ofNat 3), ("message", .string line)])]

/-- The messages to the editor that one message leads to: the log first, then the response. -/
def Exchange.toJson (exchange : Exchange) : List Json :=
  exchange.log.map logNotification ++ exchange.response.toJson?.toList

end GoAssist
