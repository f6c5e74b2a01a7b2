import GoAssist.Line.Identifier

/-!
# Columns in UTF-16 units

Editors count columns in UTF-16 units, of which a character takes one or two; the line analysis
counts characters. The two functions here convert between them. Both add in 32-bit words, as the
editor's columns are such words.
-/

namespace GoAssist

/-- How many UTF-16 units a character takes: two beyond the basic plane. -/
def utf16Size (c : Char) : Nat :=
  if c.toNat < 0x10000 then 1 else 2

/-- How many UTF-16 units a text takes. -/
def utf16Length : (text : List Char) → Nat
  | [] => 0
  | c :: rest => utf16Size c + utf16Length rest

/-- The column of the first character of `rest` that does not begin before `target`, if the first
one stands at column `column` and begins after `passed` units. -/
def charColumnFrom (target : UInt32) (passed : UInt32) (column : Nat) : (rest : Line) → Nat
  | [] => column
  | c :: rest =>
    if target ≤ passed then column
    else charColumnFrom target (passed + UInt32.ofNat (utf16Size c)) (column + 1) rest

/-- The column in characters of a column in UTF-16 units. Past the end of the line it is the end,
and between the two units of a character it is the column after that character. -/
def charColumn (line : Line) (target : UInt32) : Nat :=
  charColumnFrom target 0 0 line

/-- The column in UTF-16 units of a column in characters. -/
def utf16Column (line : Line) (column : Nat) : UInt32 :=
  (line.take column).foldl (fun passed c => passed + UInt32.ofNat (utf16Size c)) 0

theorem charColumn_zero (line : Line) : charColumn line 0 = 0 := by
  cases line <;> simp [charColumn, charColumnFrom]

end GoAssist
