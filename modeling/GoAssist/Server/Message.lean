import GoAssist.Json.Value

/-!
# Messages from an editor

A message is a JSON object that says which version of the protocol it follows. It names a method, and
its identifier, if it has one, asks for a response. An editor also sends responses of its own.
`Incoming.ofJson` tells the two apart; a response counts as one even if it names a method.
-/

namespace GoAssist

/-- A message from the editor. -/
structure Message where
  /-- The name of its method. -/
  method : String
  /-- The parameters, if there are any. -/
  params : Option Json
  /-- The identifier of a request; a notification has none. -/
  id : Option Json

/-- What arrives from the editor. -/
inductive Incoming where
  /-- A request or notification. -/
  | message (message : Message)
  /-- A response, which needs no answer. -/
  | response
  /-- A value that is neither. -/
  | unfit
  /-- No value that could be read. -/
  | unreadable

/-- How deep the values in a message may be nested. -/
def maxNesting : Nat := 127

/-- Whether arrays and objects are nested at most `limit` deep. -/
def Json.nestsWithin (limit : Nat) : Json → Bool
  | .array items =>
    match limit with
    | 0 => false
    | limit + 1 => items.all (Json.nestsWithin limit)
  | .object members =>
    match limit with
    | 0 => false
    | limit + 1 => members.all fun member => Json.nestsWithin limit member.2
  | _ => true

namespace Incoming

/-- Whether a value is an integer of 64 bits, with a sign. -/
def isInt64 (json : Json) : Bool :=
  match json.toInt? with
  | some n => decide (n < 9223372036854775808)
  | none => false

/-- Whether a value can identify a request. -/
def isIdentifier : Json → Bool
  | .null => true
  | .string _ => true
  | json => isInt64 json

/-- Whether a value tells the version of the protocol. -/
def isVersion (json : Json) : Bool :=
  json.toString? == some "2.0"

/-- Whether a value says what went wrong: a number and a text, perhaps with more to tell. -/
def isError : Json → Bool
  | .object members =>
    (members.all fun member => ["code", "message", "data"].contains member.1)
      && (Json.memberNamed? members "code").any isInt64
      && (Json.memberNamed? members "message").any (·.toString?.isSome)
  | .array [code, text, _] => isInt64 code && (Json.toString? text).isSome
  | _ => false

/-- Whether the members of an object make a response. -/
def isResponse (members : List (String × Json)) : Bool :=
  let member := Json.memberNamed? members
  (member "jsonrpc").any isVersion && (member "id").any isIdentifier
    && ((member "result").isSome || (member "error").any isError)

/-- A request or notification by its parts. A method that is not named is the empty one. -/
def ofParts (version method params id : Option Json) : Incoming :=
  match version.any isVersion, (method.getD (.string "")).toString?, id.all isIdentifier with
  | true, some method, true => .message ⟨method, params, id⟩
  | _, _, _ => .unfit

/-- What a value is. A request may also be written as an array of its parts. -/
def ofJson (json : Json) : Incoming :=
  if !json.nestsWithin maxNesting then .unreadable
  else
    match json with
    | .object members =>
      if isResponse members then .response
      else
        let member := Json.memberNamed? members
        ofParts (member "jsonrpc") (member "method") (member "params") (member "id")
    | .array parts =>
      if parts.length ≤ 4 then ofParts parts[0]? parts[1]? parts[2]? parts[3]? else .unfit
    | _ => .unfit

end Incoming

end GoAssist
