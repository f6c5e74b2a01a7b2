import GoAssist.Json.Token

/-!
# Reading JSON

Tokens are put together with a stack of the arrays and objects that are open, so values may be
nested to any depth.
-/

namespace GoAssist

/-- An array or object that is open, with what it holds so far, backwards. -/
inductive OpenValue where
  | array (items : List RawJson)
  /-- An object that waits for the value of `key`. -/
  | object (members : List (RawString × RawJson)) (key : RawString)

/-- What may come next. The stack has the innermost open value first. -/
inductive ReadState where
  /-- A value. -/
  | value (stack : List OpenValue)
  /-- The first item of an array, or its end. -/
  | firstItem (stack : List OpenValue)
  /-- The first key of an object, or its end. -/
  | firstKey (stack : List OpenValue)
  /-- A key, after the members read so far. -/
  | key (members : List (RawString × RawJson)) (stack : List OpenValue)
  /-- A colon after a key. -/
  | colon (members : List (RawString × RawJson)) (key : RawString) (stack : List OpenValue)
  /-- A comma or the end of an array. -/
  | afterItem (items : List RawJson) (stack : List OpenValue)
  /-- A comma or the end of an object. -/
  | afterMember (members : List (RawString × RawJson)) (stack : List OpenValue)
  /-- Nothing: the value is complete. -/
  | done (value : RawJson)

namespace ReadState

/-- Puts a complete value into the innermost open one. -/
def close (value : RawJson) : List OpenValue → ReadState
  | [] => .done value
  | .array items :: stack => .afterItem (value :: items) stack
  | .object members name :: stack => .afterMember ((name, value) :: members) stack

/-- Reads the first token of a value. -/
def beginValue (stack : List OpenValue) : Token → Option ReadState
  | .null => some (close .null stack)
  | .bool b => some (close (.bool b) stack)
  | .number literal => some (close (.number literal) stack)
  | .string raw => some (close (.string raw) stack)
  | .openBracket => some (.firstItem stack)
  | .openBrace => some (.firstKey stack)
  | _ => none

/-- Reads one token. -/
def step : ReadState → Token → Option ReadState
  | .value stack, token => beginValue stack token
  | .firstItem stack, .closeBracket => some (close (.array []) stack)
  | .firstItem stack, token => beginValue (.array [] :: stack) token
  | .firstKey stack, .closeBrace => some (close (.object []) stack)
  | .firstKey stack, .string name => some (.colon [] name stack)
  | .key members stack, .string name => some (.colon members name stack)
  | .colon members name stack, .colon => some (.value (.object members name :: stack))
  | .afterItem items stack, .comma => some (.value (.array items :: stack))
  | .afterItem items stack, .closeBracket => some (close (.array items.reverse) stack)
  | .afterMember members stack, .comma => some (.key members stack)
  | .afterMember members stack, .closeBrace => some (close (.object members.reverse) stack)
  | _, _ => none

end ReadState

/-- The value that the tokens spell, if they spell exactly one. -/
def RawJson.ofTokens? (tokens : List Token) : Option RawJson :=
  match tokens.foldlM ReadState.step (.value []) with
  | some (.done value) => some value
  | _ => none

/-- The value of a text, with strings as they are written. -/
def RawJson.ofText? (text : String) : Option RawJson :=
  (tokens? text.toList).bind ofTokens?

/-- The value of a text. -/
def Json.ofText? (text : String) : Option Json :=
  (RawJson.ofText? text).bind RawJson.decode

end GoAssist
