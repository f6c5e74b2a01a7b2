import GoAssist.Line.Word
import GoAssist.Registry.Basic

/-!
# Hover text

A name is explained as a function of the first package that has one, else as a keyword, else as a
predeclared type. Constants, variables and package names have no hover text.
-/

namespace GoAssist

/-- The explanation of a name: a title, and for a function its declaration. -/
structure Hover where
  /-- The title. -/
  title : String
  /-- What follows the title. -/
  details : List String
  deriving DecidableEq, Repr, Inhabited

/-- The blocks of text, title first. -/
def Hover.contents (hover : Hover) : List String :=
  hover.title :: hover.details

namespace Registry

/-- The explanation of a name, if it is known. -/
def hover? (registry : Registry) (name : String) : Option Hover :=
  match registry.findFunction? name with
  | some (package, function) =>
    some ⟨"**" ++ package.name ++ "." ++ function.label ++ "**", [function.signature]⟩
  | none =>
    if registry.isKeyword name then some ⟨"**" ++ name ++ "** (keyword)", []⟩
    else if registry.isType name then some ⟨"**" ++ name ++ "** (built-in type)", []⟩
    else none

/-- The explanation of the identifier that touches a column of a line. -/
def hoverAt? (registry : Registry) (line : Line) (column : Nat) : Option Hover :=
  (wordAt? line column).bind fun word => registry.hover? (String.ofList word.text)

end Registry

end GoAssist
