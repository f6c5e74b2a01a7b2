/-!
# Arguments of a program

Arguments are read from left to right by the shape of a command: flags and options by their long
names, then values and the names of subcommands. An option's value follows it or is joined to it by
an equals sign; a value that follows may not begin with a dash, unless it is nothing else. After two
dashes all arguments are values. The first fault decides, and asking for the version or for help
before it ends the reading.
-/

namespace GoAssist

/-- What a command takes. -/
structure Shape where
  /-- The names of its flags. -/
  flags : List String
  /-- The names of its options, which take a value. -/
  options : List String
  /-- How many values it takes beside them. -/
  values : Nat
  /-- The names of its subcommands. -/
  subcommands : List String
  /-- Whether it tells its version. -/
  hasVersion : Bool

/-- The arguments of one command. -/
structure Arguments where
  /-- The flags that were given. -/
  flags : List String
  /-- The options that were given, with their values. -/
  options : List (String × String)
  /-- The values, in order. -/
  values : List String
  /-- The subcommand and its own arguments. -/
  subcommand : Option (String × List String)
  deriving Repr

/-- What reading arguments comes to. -/
inductive Parsed (α : Type) where
  | ok (value : α)
  /-- The version was asked for. -/
  | version
  /-- Help was asked for. -/
  | help
  /-- The arguments do not fit. -/
  | invalid
  deriving Repr

/-- Goes on with the value that was read. -/
def Parsed.bind {α β : Type} (parsed : Parsed α) (next : α → Parsed β) : Parsed β :=
  match parsed with
  | .ok value => next value
  | .version => .version
  | .help => .help
  | .invalid => .invalid

instance : Monad Parsed where
  pure := .ok
  bind := Parsed.bind

/-- A value, or a fault. -/
def Parsed.ofOption {α : Type} : Option α → Parsed α
  | some value => .ok value
  | none => .invalid

namespace Arguments

/-- Nothing given. -/
def empty : Arguments :=
  ⟨[], [], [], none⟩

/-- Whether a flag was given. -/
def hasFlag (arguments : Arguments) (name : String) : Bool :=
  arguments.flags.contains name

/-- The value of an option. -/
def option? (arguments : Arguments) (name : String) : Option String :=
  (arguments.options.find? fun option => option.1 == name).map Prod.snd

/-- Adds a flag that was not given before. -/
def addFlag? (arguments : Arguments) (name : String) : Option Arguments :=
  if arguments.hasFlag name then none
  else some { arguments with flags := arguments.flags ++ [name] }

/-- Adds an option that was not given before. -/
def addOption? (arguments : Arguments) (name value : String) : Option Arguments :=
  if (arguments.option? name).isSome then none
  else some { arguments with options := arguments.options ++ [(name, value)] }

/-- Adds a value where the shape has room for one. -/
def addValue? (shape : Shape) (arguments : Arguments) (value : String) : Option Arguments :=
  if arguments.values.length < shape.values then
    some { arguments with values := arguments.values ++ [value] }
  else none

end Arguments

/-- What one argument is. -/
inductive Argument where
  /-- Two dashes. -/
  | separator
  /-- A long name, perhaps with a value joined to it. -/
  | long (name : String) (value : Option String)
  /-- A dash and short names, of which this is the first. -/
  | short (first : Char)
  | value (text : String)
  deriving DecidableEq, Repr

/-- The kind of an argument, by how it begins. -/
def Argument.ofString (text : String) : Argument :=
  match text.toList with
  | ['-', '-'] => .separator
  | '-' :: '-' :: rest =>
    match rest.dropWhile (· != '=') with
    | [] => .long (String.ofList rest) none
    | _ :: joined =>
      .long (String.ofList (rest.takeWhile (· != '='))) (some (String.ofList joined))
  | '-' :: first :: _ => .short first
  | _ => .value text

/-- Reads the arguments of a command after those in `before`. -/
def Shape.read (shape : Shape) (before : Arguments) : List String → Parsed Arguments
  | [] => .ok before
  | text :: rest =>
    match Argument.ofString text with
    | .separator =>
      .ofOption (rest.foldlM (fun arguments value => arguments.addValue? shape value) before)
    | .long name none =>
      if shape.flags.contains name then
        match before.addFlag? name with
        | some arguments => shape.read arguments rest
        | none => .invalid
      else if shape.options.contains name then
        match rest with
        | [] => .invalid
        | following :: rest =>
          match Argument.ofString following with
          | .value value =>
            match before.addOption? name value with
            | some arguments => shape.read arguments rest
            | none => .invalid
          | _ => .invalid
      else if name = "version" ∧ shape.hasVersion then .version
      else if name = "help" then .help
      else .invalid
    | .long name (some value) =>
      if shape.options.contains name then
        match before.addOption? name value with
        | some arguments => shape.read arguments rest
        | none => .invalid
      else .invalid
    | .short first =>
      if first = 'V' ∧ shape.hasVersion then .version
      else if first = 'h' then .help
      else .invalid
    | .value value =>
      if shape.subcommands.contains value then
        .ok { before with subcommand := some (value, rest) }
      else if value = "help" ∧ shape.subcommands ≠ [] then .help
      else
        match before.addValue? shape value with
        | some arguments => shape.read arguments rest
        | none => .invalid

/-- Reads the arguments of a command. -/
def Shape.parse (shape : Shape) (texts : List String) : Parsed Arguments :=
  shape.read .empty texts

/-- A decimal number below `bound`, perhaps with a plus sign. -/
def decimal? (bound : Nat) (text : String) : Option Nat :=
  let digits :=
    match text.toList with
    | '+' :: rest => rest
    | digits => digits
  if digits.isEmpty || !digits.all Char.isDigit then none
  else
    let n := digits.foldl (fun n d => n * 10 + (d.toNat - '0'.toNat)) 0
    if n < bound then some n else none

end GoAssist
