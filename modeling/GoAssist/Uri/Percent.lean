import GoAssist.Text.Digit

/-!
# Percent signs

In an address a byte may be written as a percent sign and two digits. `percentEncode` writes so every
byte of the characters that may not stand there as they are; `percentEncode_of_all` says that it
leaves the others alone.
-/

namespace GoAssist.Uri

/-- The bytes of a text. -/
def bytesOf (text : List Char) : List UInt8 :=
  (String.ofList text).toUTF8.data.toList

/-- A byte as a percent sign and two digits. -/
def percentByte (byte : UInt8) : List Char :=
  ['%', (hexDigit (byte.toNat / 16)).toUpper, (hexDigit (byte.toNat % 16)).toUpper]

/-- Writes with percent signs what does not pass `keeps`. -/
def percentEncode (keeps : Char → Bool) (text : List Char) : List Char :=
  text.flatMap fun c => if keeps c then [c] else (bytesOf [c]).flatMap percentByte

/-- The bytes that a text stands for. A percent sign without two digits stands for itself. -/
def percentDecode : List Char → List UInt8
  | [] => []
  | '%' :: high :: low :: rest =>
    match hexDigit? high, hexDigit? low with
    | some h, some l => .ofNat (h * 16 + l) :: percentDecode rest
    | _, _ => bytesOf ['%'] ++ percentDecode (high :: low :: rest)
  | c :: rest => bytesOf [c] ++ percentDecode rest

/-- Characters that may stand as they are are left alone. -/
theorem percentEncode_of_all {keeps : Char → Bool} {text : List Char}
    (h : ∀ c ∈ text, keeps c = true) : percentEncode keeps text = text := by
  induction text with
  | nil => rfl
  | cons c rest ih =>
    rw [percentEncode, List.flatMap_cons, if_pos (h c List.mem_cons_self)]
    exact congrArg (c :: ·) (ih fun d hd => h d (List.mem_cons_of_mem _ hd))

/-! ## Characters that may stand as they are -/

/-- Visible ASCII characters and the blank. -/
def isPrintable (c : Char) : Bool :=
  ' ' ≤ c && c ≤ '~'

/-- Printable characters other than some. -/
def printableBut (others : String) (c : Char) : Bool :=
  isPrintable c && !others.toList.contains c

/-- What may stand in a fragment. -/
def fragmentKeeps : Char → Bool :=
  printableBut " \"<>\x60"

/-- What may stand in a path. -/
def pathKeeps : Char → Bool :=
  printableBut " \"<>\x60#?\x7b\x7d"

/-- What may stand in the name or the password of a user. -/
def userKeeps : Char → Bool :=
  printableBut " \"<>\x60#?^\x7b\x7d/:;=@[\\]|"

/-- What may stand in a query. -/
def queryKeeps (isSpecial : Bool) : Char → Bool :=
  if isSpecial then printableBut " \"#<>'" else printableBut " \"#<>"

end GoAssist.Uri
