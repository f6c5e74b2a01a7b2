import GoAssist.Json.Value
import GoAssist.Text.Digit

/-!
# Printing JSON

There are two layouts: one line without blanks, and one member or item to a line with two blanks for
each level. In strings only quotes, backslashes and control characters are escaped. `quoted_plain`
says that text without them stands as it is.
-/

namespace GoAssist

/-- A character as it is written in a string. -/
def escapeChar (c : Char) : List Char :=
  if c = '"' then ['\\', '"']
  else if c = '\\' then ['\\', '\\']
  else if c = '\x08' then ['\\', 'b']
  else if c = '\x0c' then ['\\', 'f']
  else if c = '\n' then ['\\', 'n']
  else if c = '\r' then ['\\', 'r']
  else if c = '\t' then ['\\', 't']
  else if c.toNat < 0x20 then
    ['\\', 'u', '0', '0', hexDigit (c.toNat / 16), hexDigit (c.toNat % 16)]
  else [c]

/-- A string in quotes. -/
def quoted (s : String) : String :=
  String.ofList ('"' :: s.toList.flatMap escapeChar ++ ['"'])

namespace Json

mutual

/-- A value on one line. -/
def compact : Json → String
  | .null => "null"
  | .bool b => if b then "true" else "false"
  | .number literal => literal
  | .string s => quoted s
  | .array items => "[" ++ compactItems items ++ "]"
  | .object members => "\x7b" ++ compactMembers members ++ "\x7d"

/-- Items with commas between them. -/
def compactItems : List Json → String
  | [] => ""
  | [item] => compact item
  | item :: items => compact item ++ "," ++ compactItems items

/-- Members with commas between them. -/
def compactMembers : List (String × Json) → String
  | [] => ""
  | [(key, value)] => quoted key ++ ":" ++ compact value
  | (key, value) :: members =>
    quoted key ++ ":" ++ compact value ++ "," ++ compactMembers members

end

/-- A line end and the blanks of a level. -/
def lineBreak (level : Nat) : String :=
  String.ofList ('\n' :: List.replicate (2 * level) ' ')

mutual

/-- A value at a level, one item or member to a line. -/
def prettyAt (level : Nat) : Json → String
  | .null => "null"
  | .bool b => if b then "true" else "false"
  | .number literal => literal
  | .string s => quoted s
  | .array [] => "[]"
  | .array items => "[" ++ prettyItems (level + 1) items ++ lineBreak level ++ "]"
  | .object [] => "\x7b\x7d"
  | .object members =>
    "\x7b" ++ prettyMembers (level + 1) members ++ lineBreak level ++ "\x7d"

/-- Items, each on a line of its own. -/
def prettyItems (level : Nat) : List Json → String
  | [] => ""
  | [item] => lineBreak level ++ prettyAt level item
  | item :: items => lineBreak level ++ prettyAt level item ++ "," ++ prettyItems level items

/-- Members, each on a line of its own. -/
def prettyMembers (level : Nat) : List (String × Json) → String
  | [] => ""
  | [(key, value)] => lineBreak level ++ quoted key ++ ": " ++ prettyAt level value
  | (key, value) :: members =>
    lineBreak level ++ quoted key ++ ": " ++ prettyAt level value ++ ","
      ++ prettyMembers level members

end

/-- A value, one item or member to a line. -/
def pretty (json : Json) : String :=
  prettyAt 0 json

end Json

theorem escapeChar_of_plain {c : Char} (hquote : c ≠ '"') (hbackslash : c ≠ '\\')
    (hcontrol : 0x20 ≤ c.toNat) : escapeChar c = [c] := by
  have hne : ∀ d : Char, d.toNat < 0x20 → c ≠ d := by
    rintro d hd rfl
    omega
  have hlt : ¬c.toNat < 0x20 := by omega
  simp only [escapeChar, hquote, hbackslash, hlt, hne '\x08' (by decide), hne '\x0c' (by decide),
    hne '\n' (by decide), hne '\r' (by decide), hne '\t' (by decide), if_false]

/-- Text without quotes, backslashes and control characters stands as it is. -/
theorem quoted_plain {text : List Char}
    (h : ∀ c ∈ text, c ≠ '"' ∧ c ≠ '\\' ∧ 0x20 ≤ c.toNat) :
    quoted (String.ofList text) = String.ofList ('"' :: text ++ ['"']) := by
  have : text.flatMap escapeChar = text := by
    induction text with
    | nil => rfl
    | cons c rest ih =>
      obtain ⟨hquote, hbackslash, hcontrol⟩ := h c (by simp)
      rw [List.flatMap_cons, escapeChar_of_plain hquote hbackslash hcontrol,
        ih fun d hd => h d (by simp [hd])]
      rfl
  rw [quoted, String.toList_ofList, this]

end GoAssist
