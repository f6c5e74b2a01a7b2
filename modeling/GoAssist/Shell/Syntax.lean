/-!
# The syntax of shell scripts

A script is made of commands, and a command of words. A word keeps its characters one by one, with
whether they were quoted, because unquoted ones may still stand for something else. A text given in
place of a file is kept apart from its command, by a number (`Target.document`).
-/

namespace GoAssist.Shell

/-- A text of bytes, each written as the character of its code. -/
abbrev Text := List Char

/-- What becomes of the value of a parameter. A form with `orEmpty` treats an empty value as none. -/
inductive Form where
  | plain
  | length
  /-- Another text in place of no value. -/
  | default (orEmpty : Bool)
  /-- The same, and the parameter gets that value. -/
  | assign (orEmpty : Bool)
  /-- An error for no value. -/
  | demand (orEmpty : Bool)
  /-- Another text in place of a value. -/
  | alternative (orEmpty : Bool)
  /-- The value without its beginning. -/
  | dropFirst (longest : Bool)
  /-- The value without its end. -/
  | dropLast (longest : Bool)
  /-- A form that there is not. -/
  | bad
  deriving DecidableEq, Repr

/-- How a redirection opens its file. -/
inductive Opening where
  | read
  | write
  /-- As `write`, also for a file that is to be kept. -/
  | rewrite
  | append
  | readWrite
  deriving DecidableEq, Repr

/-- What is done to the result of a command before the next one runs. -/
inductive Joint where
  | and
  | or
  | next
  deriving DecidableEq, Repr

mutual

/-- A part of a word. -/
inductive Part where
  | char (c : Char) (quoted : Bool)
  /-- Quotes with nothing between them. -/
  | quotes
  | parameter (name : Text) (form : Form) (word : List Part) (quoted : Bool)
  /-- What a command prints. -/
  | output (body : Option Command) (quoted : Bool)
  /-- The value of an expression. -/
  | arithmetic (expression : List Part) (quoted : Bool)

/-- What a redirection leads to. -/
inductive Target where
  | file (opening : Opening) (name : List Part)
  /-- What another descriptor leads to. -/
  | descriptor (source : List Part)
  /-- A text that was given after the command. -/
  | document (number : Nat)

/-- A command. -/
inductive Command where
  | simple (assignments : List (Text × List Part)) (words : List (List Part))
      (redirections : List (Nat × Target))
  | pipeline (stages : List Command)
  | negated (command : Command)
  | joined (first : Command) (joint : Joint) (second : Command)
  | background (command : Command)
  | subshell (body : Command)
  | conditional (test : Command) (yes : Command) (no : Option Command)
  | loop (test : Command) (whileTrue : Bool) (body : Command)
  | forEach (name : Text) (words : List (List Part)) (body : Command)
  | choice (subject : List Part) (arms : List (List (List Part) × Option Command))
  | definition (name : Text) (body : Command)
  | redirected (command : Command) (redirections : List (Nat × Target))

end

instance : Inhabited Command := ⟨.simple [] [] []⟩

/-- A word without its quotes, if nothing in it is quoted or stands for something else. -/
def literal? : List Part → Option Text
  | [] => some []
  | .char c false :: rest => (literal? rest).map (c :: ·)
  | _ => none

/-- A text as a word that is quoted or not. -/
def wordOf (quoted : Bool) (text : Text) : List Part :=
  text.map fun c => .char c quoted

/-- Unquoted characters are literal. -/
theorem literal?_wordOf (text : Text) : literal? (wordOf false text) = some text := by
  induction text with
  | nil => rfl
  | cons c rest ih =>
    change (literal? (wordOf false rest)).map (c :: ·) = some (c :: rest)
    rw [ih]
    rfl

/-! ## Names -/

/-- Whether a character may begin the name of a parameter. -/
def isNameStart (c : Char) : Bool :=
  c.isAlpha || c == '_'

/-- Whether a character may stand in the name of a parameter. -/
def isNameChar (c : Char) : Bool :=
  c.isAlphanum || c == '_'

/-- Whether a text is the name of a parameter. -/
def isName (text : Text) : Bool :=
  text.head?.any isNameStart && text.all isNameChar

/-- Whether a character is the name of a parameter that the shell sets. -/
def isSpecialName (c : Char) : Bool :=
  "@*#?-$!0123456789".toList.contains c

end GoAssist.Shell
