import GoAssist.Json.Value
import GoAssist.Uri.Basic

/-!
# Schemas

What the language server protocol says of the shape of a value. Members that a schema does not know
are passed over. A record may also be written as an array of its members' values in order; those at
the end that may be left out may be left out there too.
-/

namespace GoAssist

/-- What a value has to be. -/
inductive Schema where
  | any
  | bool
  | string
  /-- An integer of 32 bits, with a sign. -/
  | int32
  /-- An integer of 32 bits, without a sign. -/
  | nat32
  | number
  /-- The address of a document. -/
  | address
  /-- One of some names, or an object whose one member has such a name and says nothing. -/
  | oneOf (names : List String)
  /-- The value may be `null`, or left out. -/
  | optional (schema : Schema)
  /-- The value may be left out. -/
  | lacking (schema : Schema)
  | list (item : Schema)
  /-- An object, or an array of its members' values. -/
  | record (members : List (String × Schema))
  /-- An object; its other members have a schema too. -/
  | object (members : List (String × Schema)) (others : Schema)
  /-- An object whose members are named by addresses. -/
  | byAddress (value : Schema)
  | either (first second : Schema)
  deriving Repr, Inhabited

namespace Schema

/-- Whether a value may be left out. -/
def allowsNone : Schema → Bool
  | .optional _ => true
  | .lacking _ => true
  | _ => false

/-- Whether a value may be left out at the end of an array. -/
def allowsEnd : Schema → Bool
  | .lacking _ => true
  | _ => false

mutual

/-- Whether a value is as a schema says. -/
def accepts : Schema → Json → Bool
  | .any, _ => true
  | .bool, .bool _ => true
  | .string, .string _ => true
  | .int32, json =>
    match Json.toInt? json with
    | some n => decide (-2147483648 ≤ n ∧ n < 2147483648)
    | none => false
  | .nat32, json => (Json.toNatBelow? UInt32.size json).isSome
  | .number, .number _ => true
  | .address, .string text => (Uri.normalize? text).isSome
  | .oneOf names, .string text => names.contains text
  | .oneOf names, .object [(name, .null)] => names.contains name
  | .optional _, .null => true
  | .optional schema, json => accepts schema json
  | .lacking schema, json => accepts schema json
  | .list item, .array items => items.all (accepts item)
  | .record members, .object given => acceptsMembers members given
  | .record members, .array items => acceptsItems members items
  | .object members others, .object given =>
    acceptsMembers members given &&
      given.all fun member =>
        (members.map Prod.fst).contains member.1 || accepts others member.2
  | .byAddress value, .object given =>
    given.all fun member => (Uri.normalize? member.1).isSome && accepts value member.2
  | .either first second, json => accepts first json || accepts second json
  | _, _ => false

/-- Whether the members of an object are as the schemas of their names say. -/
def acceptsMembers : List (String × Schema) → List (String × Json) → Bool
  | [], _ => true
  | (name, schema) :: rest, given =>
    (match Json.memberNamed? given name with
      | some json => accepts schema json
      | none => allowsNone schema)
      && acceptsMembers rest given

/-- Whether the items of an array are as the schemas of their places say. -/
def acceptsItems : List (String × Schema) → List Json → Bool
  | [], items => items.isEmpty
  | (_, schema) :: rest, [] => allowsEnd schema && acceptsItems rest []
  | (_, schema) :: rest, item :: items => accepts schema item && acceptsItems rest items

end

end Schema

end GoAssist
