/-!
# Tab stops in a template

A template holds tab stops if it has a marker: a dollar sign with a digit after it, or with an
opening brace and a digit. The scan runs over the UTF-8 bytes, where these characters stand for
themselves.
-/

namespace GoAssist

/-- Whether a byte is an ASCII digit. -/
def isDigitByte (byte : UInt8) : Bool :=
  0x30 ≤ byte && byte ≤ 0x39

/-- Whether the bytes after a dollar sign complete a marker: a digit, or an opening brace and a
digit. -/
def completesMarker : List UInt8 → Bool
  | [] => false
  | [first] => isDigitByte first
  | first :: second :: _ => isDigitByte first || first == 0x7B && isDigitByte second

/-- Whether a marker begins at some byte. -/
def hasMarker : List UInt8 → Bool
  | [] => false
  | byte :: rest => byte == 0x24 && completesMarker rest || hasMarker rest

/-- Whether a template holds tab stops. -/
def hasPlaceholders (template : String) : Bool :=
  hasMarker template.toUTF8.data.toList

end GoAssist
