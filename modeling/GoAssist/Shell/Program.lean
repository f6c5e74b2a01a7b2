import GoAssist.Shell.Builtin

/-!
# Programs beside the shell

What the small programs do that every machine has: they print, read and change files. Each gives the
status with which it ends. A file that holds such a program is known by its content
(`name?_image`).
-/

namespace GoAssist.Shell.Program

open Run

/-! ## Files that hold programs -/

/-- How a file begins that holds a program for the machine. -/
def magic : List UInt8 := [0x7f, 0x45, 0x4c, 0x46, 0xff]

/-- The content of a file that holds the program of a name. -/
def image (name : String) : ByteArray :=
  ⟨(magic ++ name.toUTF8.data.toList).toArray⟩

/-- The name of the program that a file holds, if it holds one. -/
def name? (content : ByteArray) : Option String :=
  let bytes := content.data.toList
  if magic.isPrefixOf bytes then String.fromUTF8? ⟨(bytes.drop magic.length).toArray⟩ else none

/-- A program is known by its content. -/
theorem name?_image (name : String) : name? (image name) = some name := by
  have hprefix : magic.isPrefixOf (magic ++ name.toUTF8.data.toList) = true := by
    simp [List.isPrefixOf_iff_prefix]
  have hvalid : ByteArray.IsValidUTF8 ⟨name.toUTF8.data.toList.toArray⟩ := name.isValidUTF8
  simp only [name?, image, hprefix, if_true, List.drop_left, String.fromUTF8?]
  rw [dif_pos hvalid]
  rfl

/-- The names of the shell. -/
def shellNames : List String := ["sh", "dash", "bash"]

/-- The program that runs others in another environment. -/
def environmentName : String := "env"

/-! ## Arguments -/

/-- The letters of the options among arguments, and the other arguments. -/
def operands : List Text → List Char × List Text
  | [] => ([], [])
  | ['-', '-'] :: rest => ([], rest)
  | ('-' :: letter :: letters) :: rest =>
    let (others, rest) := operands rest
    (letter :: letters ++ others, rest)
  | word :: rest =>
    let (others, rest) := operands rest
    (others, word :: rest)

/-- Does something for each of some arguments; the status is the worst. -/
def forEach (words : List Text) (action : Text → Run Nat) : Run Nat :=
  words.foldlM (fun status word => return max status (← action word)) 0

/-- Whether a result is one. -/
def statusOf {ε α : Type} : Except ε α → Nat
  | .ok _ => 0
  | .error _ => 1

/-! ## Reading -/

/-- The content of the file at a path, or of the input. -/
def contentOf (path : Text) : Run (Option Text) := do
  if path = ['-'] then readAll? 0
  else
    match ← find path with
    | .ok (_, .file content _) => return some (Bytes.ofByteArray content)
    | .ok (_, .sink) => return some []
    | _ => return none

/-- The lines of a text. -/
def linesOf (text : Text) : List Text :=
  let lines := pieces '\n' text
  if lines.getLast? = some [] then lines.dropLast else lines

/-- A text with blanks before it, up to a width. -/
def padded (width : Nat) (text : Text) : Text :=
  List.replicate (width - text.length) ' ' ++ text

/-- Prints files one after another, with the numbers of their lines if they are asked for. -/
def concatenate (arguments : List Text) : Run Nat := do
  let (letters, paths) := operands arguments
  forEach (if paths.isEmpty then [['-']] else paths) fun path => do
    match ← contentOf path with
    | some content =>
      if letters.contains 'n' then
        Builtin.sayLines ((linesOf content).zipIdx.map fun (line, index) =>
          padded 6 (toString (index + 1)).toList ++ ['\t'] ++ line)
      else Builtin.say content
    | none => return 1

/-- How much of a file is printed at first, and whether that is counted in bytes, with the other
arguments. -/
def beginning (arguments : List Text) : Bool × Text × List Text :=
  match arguments with
  | ['-', 'n'] :: size :: rest => (false, size, rest)
  | ['-', 'c'] :: size :: rest => (true, size, rest)
  | ('-' :: 'n' :: size) :: rest => (false, size, rest)
  | ('-' :: 'c' :: size) :: rest => (true, size, rest)
  | ('-' :: digit :: more) :: rest =>
    if digit.isDigit then (false, digit :: more, rest) else (false, ['1', '0'], arguments)
  | _ => (false, ['1', '0'], arguments)

/-- Prints the beginnings of files. -/
def firstLines (arguments : List Text) : Run Nat := do
  let (inBytes, size, rest) := beginning arguments
  match Number.natural? size with
  | none => return 1
  | some size =>
    let (_, paths) := operands rest
    forEach (if paths.isEmpty then [['-']] else paths) fun path => do
      match ← contentOf path with
      | some content =>
        if inBytes then Builtin.say (content.take size)
        else Builtin.sayLines ((linesOf content).take size)
      | none => return 1

/-- The numbers of lines, words and bytes, under the letters that ask for them. -/
def countsOf (content : Text) : List (Char × Nat) :=
  let words := (content.foldl
    (fun (count, inWord) c =>
      if Number.isSpace c then (count, false)
      else (if inWord then count else count + 1, true))
    ((0, false) : Nat × Bool)).1
  [('l', content.count '\n'), ('w', words), ('c', content.length)]

/-- Counts lines, words and bytes. Numbers that stand beside others have one width: that of the largest,
or seven where the size of what is read is not known before. -/
def countWords (arguments : List Text) : Run Nat := do
  let (letters, paths) := operands arguments
  forEach (if paths.isEmpty then [['-']] else paths) fun path => do
    match ← contentOf path with
    | none => return 1
    | some content =>
      let shown := (countsOf content).filter fun (letter, _) =>
        letters.isEmpty || letters.contains letter
      let texts := shown.map fun (_, n) => (toString n).toList
      let width :=
        if texts.length = 1 then 1
        else if path = ['-'] then 7
        else (toString content.length).length
      let name := if paths.isEmpty then [] else [path]
      Builtin.sayLines [[' '].intercalate (texts.map (padded width) ++ name)]

/-- Prints its input and writes it to files. -/
def copyInput (arguments : List Text) : Run Nat := do
  let (letters, paths) := operands arguments
  let text := (← readAll? 0).getD []
  let status ← forEach paths fun path => do
    let opening : Opening := if letters.contains 'a' then .append else .write
    match ← openPath opening false path with
    | .ok number =>
      setDescriptor 99 (some number)
      let _ ← write 99 text
      setDescriptor 99 none
      return 0
    | .error _ => return 1
  return max status (← Builtin.say text)

/-- Prints the names in directories. -/
def listNames (arguments : List Text) : Run Nat := do
  let (letters, paths) := operands arguments
  forEach (if paths.isEmpty then [['.']] else paths) fun path => do
    match ← find path with
    | .ok (location, .directory) =>
      if letters.contains 'd' then Builtin.sayLines [path]
      else
        let dots := if letters.contains 'a' then [['.'], ['.', '.']] else []
        let names := dots ++ ((← world).files.names location).map Bytes.ofString
        let shown := names.filter fun name =>
          letters.contains 'a' || letters.contains 'A' || name.head? != some '.'
        Builtin.sayLines (shown.mergeSort fun a b => !decide (b < a))
    | .ok _ => Builtin.sayLines [path]
    | .error _ => return 2

/-! ## Changing files -/

/-- Makes a directory; `isPlain` if nothing may stand there and its parent has to. -/
def makeDirectory (isPlain : Bool) (path : Text) : Run Nat := do
  match Bytes.toString? path with
  | none => return 1
  | some name =>
    let (_, parents) := (← world).files.makeParents (← process).working name
    if isPlain then
      match ← find path with
      | .ok _ => return 1
      | .error _ =>
        let above := (Path.parent? name).getD ""
        let isThere := above.isEmpty
          || (← world).files.isDirectory (← process).working above
        if !isThere || statusOf parents != 0 then return 1
    let (files, result) := (← world).files.makePath (← process).working name
    modifyFiles fun _ => files
    return statusOf result

/-- Makes directories. -/
def makeDirectories (arguments : List Text) : Run Nat := do
  let arguments :=
    match arguments with
    | ['-', 'm'] :: _ :: rest => rest
    | _ => arguments
  let (letters, paths) := operands arguments
  if paths.isEmpty then return 1
  forEach paths (makeDirectory (!letters.contains 'p'))

/-- Makes files that are missing. -/
def touch (arguments : List Text) : Run Nat := do
  let (letters, paths) := operands arguments
  if paths.isEmpty then return 1
  forEach paths fun path => do
    match ← place path with
    | .ok (location, none) =>
      if !letters.contains 'c' then
        modifyFiles fun files => files.set location (some (.file .empty false))
      return 0
    | .ok _ => return 0
    | .error _ => return 1

/-- Takes empty directories away. -/
def removeDirectories (arguments : List Text) : Run Nat := do
  let (_, paths) := operands arguments
  if paths.isEmpty then return 1
  forEach paths fun path => do
    match ← find path with
    | .ok (location, .directory) =>
      if !((← world).files.names location).isEmpty then return 1
      modifyFiles fun files => files.remove location
      return 0
    | _ => return 1

/-- Takes files away, and directories if that is asked for. -/
def remove (arguments : List Text) : Run Nat := do
  let (letters, paths) := operands arguments
  let isForced := letters.contains 'f'
  let isDeep := letters.contains 'r' || letters.contains 'R'
  if paths.isEmpty then return if isForced then 0 else 1
  forEach paths fun path => do
    match ← find path with
    | .ok (location, node) =>
      let isDirectory :=
        match node with
        | .directory => true
        | _ => false
      if isDirectory && !isDeep then return 1
      modifyFiles fun files => files.remove location
      return 0
    | .error _ => return if isForced then 0 else 1

/-- Everything at a location and below it, moved to another one. -/
def moved (files : FileSystem) (source target : Location) : List (Location × Node) :=
  files.entries.filterMap fun (location, node) =>
    if source.isSuffixOf location then
      some (location.take (location.length - source.length) ++ target, node)
    else none

/-- Where something is put: below a directory that stands at the path, or at the path. -/
def targetOf (source : Location) (path : Text) : Run (Option Location) := do
  match ← place path with
  | .ok (location, some .directory) =>
    match source with
    | name :: _ => return some (name :: location)
    | [] => return none
  | .ok (location, _) => return some location
  | .error _ => return none

/-- Copies or moves files to the last path. -/
def relocate (keepsSource : Bool) (arguments : List Text) : Run Nat := do
  let (letters, paths) := operands arguments
  let isDeep := !keepsSource || letters.any fun c => "rRa".toList.contains c
  match paths.reverse with
  | target :: sources =>
    if sources.isEmpty then return 1
    let isIntoDirectory :=
      match ← find target with
      | .ok (_, .directory) => true
      | _ => false
    if sources.length > 1 && !isIntoDirectory then return 1
    forEach sources.reverse fun path => do
      match ← find path with
      | .error _ => return 1
      | .ok (source, node) =>
        let isDirectory :=
          match node with
          | .directory => true
          | _ => false
        if isDirectory && !isDeep then return 1
        match ← targetOf source target with
        | none => return 1
        | some place =>
          if place = source || source.isSuffixOf place then return 1
          let files := (← world).files
          match files.node? place, node with
          | some .directory, _ => return 1
          | some .sink, _ => return 0
          | some (.file _ executable), .file content _ =>
            if keepsSource then
              modifyFiles fun files => files.set place (some (.file content executable))
              return 0
          | some _, .directory => return 1
          | _, _ => pure ()
          let entries := moved files source place
          modifyFiles fun files =>
            let files := if keepsSource then files else files.remove source
            entries.foldl (fun files (location, node) => files.set location (some node)) files
          return 0
  | [] => return 1

/-- Whether a file can be run after its mode was changed, if the mode can be read. -/
def executableAfter (mode : Text) (before : Bool) : Option Bool :=
  if !mode.isEmpty && mode.all fun c => '0' ≤ c && c ≤ '7' then
    let bits := numberOf 8 mode
    some (bits % 2 = 1 || bits / 8 % 2 = 1 || bits / 64 % 2 = 1)
  else
    (pieces ',' mode).foldlM
      (fun executable clause =>
        let rest := clause.dropWhile fun c => "ugoa".toList.contains c
        match rest with
        | sign :: rights =>
          if !rights.all fun c => "rwxXst".toList.contains c then none
          else
            let hasRight := rights.contains 'x' || (rights.contains 'X' && executable)
            match sign with
            | '+' => some (executable || hasRight)
            | '-' => some (executable && !hasRight)
            | '=' => some hasRight
            | _ => none
        | [] => none)
      before

/-- Changes whether files can be run. -/
def changeMode (arguments : List Text) : Run Nat := do
  match arguments with
  | ['-', 'R'] :: mode :: paths => change mode paths
  | mode :: paths => change mode paths
  | [] => return 1
where
  /-- Changes files by a mode. -/
  change (mode : Text) (paths : List Text) : Run Nat := do
    if paths.isEmpty || (executableAfter mode false).isNone then return 1
    forEach paths fun path => do
      match ← find path with
      | .ok (location, .file content executable) =>
        let after := (executableAfter mode executable).getD executable
        modifyFiles fun files => files.set location (some (.file content after))
        return 0
      | .ok _ => return 0
      | .error _ => return 1

/-! ## Texts -/

/-- Prints words, of which some may be options. -/
def echo (arguments : List Text) : Run Nat :=
  let isOption (word : Text) : Bool :=
    word.length > 1 && word.head? == some '-'
      && (word.drop 1).all fun c => "neE".toList.contains c
  let letters := (arguments.takeWhile isOption).flatten
  let text := [' '].intercalate (arguments.dropWhile isOption)
  let reads := (letters.reverse.find? fun c => c == 'e' || c == 'E') == some 'e'
  let (text, ended) := if reads then Format.unescape text else (text, false)
  Builtin.say (if letters.contains 'n' || ended then text else text ++ ['\n'])

/-- A path without the slashes at its end; a path of slashes is one slash. -/
def withoutSlashes (path : Text) : Text :=
  let kept := (path.reverse.dropWhile (· == '/')).reverse
  if kept.isEmpty && !path.isEmpty then ['/'] else kept

/-- The last part of a path. -/
def lastPart (path : Text) : Text :=
  let kept := withoutSlashes path
  if kept = ['/'] then kept else (kept.reverse.takeWhile (· != '/')).reverse

/-- A path without its last part. -/
def firstParts (path : Text) : Text :=
  let kept := withoutSlashes path
  if kept = ['/'] then kept
  else
    let above := (kept.reverse.dropWhile (· != '/')).reverse
    if above.isEmpty then ['.'] else withoutSlashes above

/-- Prints the last part of a path, without an ending. -/
def baseName (arguments : List Text) : Run Nat := do
  match arguments with
  | [path] => Builtin.sayLines [lastPart path]
  | [path, ending] =>
    let part := lastPart path
    let isCut := ending.isSuffixOf part && ending.length < part.length
    Builtin.sayLines [if isCut then part.take (part.length - ending.length) else part]
  | _ => return 1

/-- Prints paths without their last parts. -/
def directoryName (arguments : List Text) : Run Nat :=
  if arguments.isEmpty then return 1 else Builtin.sayLines (arguments.map firstParts)

/-- Prints numbers in order. -/
def sequence (arguments : List Text) : Run Nat := do
  match arguments.mapM (Number.ofText? false) with
  | none => return 1
  | some bounds =>
    let numbers := bounds.map Int64.toInt
    let range? : Option (Int × Int × Int) :=
      match numbers with
      | [last] => some (1, 1, last)
      | [first, last] => some (first, 1, last)
      | [first, step, last] => some (first, step, last)
      | _ => none
    match range? with
    | none => return 1
    | some (first, step, last) =>
      if step = 0 then return 1
      let size := ((last - first) / step + 1).toNat
      let numbers := (List.range size).map fun index => first + step * Int.ofNat index
      Builtin.sayLines (numbers.map fun n => (toString n).toList)

/-- Prints the value of a short expression; it fails for an empty value or zero. -/
def expression (arguments : List Text) : Run Nat := do
  let written (value : Text) : Run Nat := do
    let _ ← Builtin.sayLines [value]
    return if value.isEmpty || value == ['0'] then 1 else 0
  match arguments with
  | [value] => written value
  | [left, sign, right] =>
    let sign := String.ofList sign
    match Number.ofText? false left, Number.ofText? false right with
    | some m, some n =>
      let sign := if sign = "=" then "==" else sign
      match Arithmetic.operation? sign m n with
      | some value => written (Number.toText value)
      | none => return 2
    | _, _ =>
      match Condition.askTwo (fun _ _ => false) sign left right with
      | some holds =>
        if ["=", "!=", "<", ">"].contains sign then written (if holds then ['1'] else ['0'])
        else return 2
      | none => return 2
  | _ => return 2

/-- Says where programs stand. -/
def locate (arguments : List Text) : Run Nat := do
  let (_, names) := operands arguments
  if names.isEmpty then return 1
  forEach names fun name => do
    match ← programPath (← process).searchPath name with
    | some path => Builtin.sayLines [path]
    | none => return 1

/-- Runs a command of the shell as a program, which fails where that one stops. -/
def asProgram (failure : Nat) (action : Run Nat) : Run Nat := do
  match ← attempt action with
  | .ok status => return status
  | .error .fault => return failure
  | .error jump => throw jump

/-! ## All of them -/

/-- The program of a name, unless it runs other programs. -/
def byName? (name : String) : Option (List Text → Run Nat) :=
  match name with
  | "true" => some fun _ => return 0
  | "false" => some fun _ => return 1
  | "echo" => some echo
  | "printf" => some fun arguments => do
    match arguments with
    | [] => return 1
    | format :: arguments =>
      let written := Format.run format arguments
      return max (← Builtin.say written.text) (min written.status 1)
  | "test" => some fun arguments => asProgram 2 (Builtin.test arguments)
  | "[" => some fun arguments =>
    if arguments.getLast? = some [']'] then asProgram 2 (Builtin.test arguments.dropLast)
    else return 2
  | "pwd" => some fun _ => do Builtin.sayLines [← Builtin.workingPath]
  | "cat" => some concatenate
  | "head" => some firstLines
  | "wc" => some countWords
  | "tee" => some copyInput
  | "ls" => some listNames
  | "mkdir" => some makeDirectories
  | "touch" => some touch
  | "rmdir" => some removeDirectories
  | "rm" => some remove
  | "cp" => some (relocate true)
  | "mv" => some (relocate false)
  | "chmod" => some changeMode
  | "basename" => some baseName
  | "dirname" => some directoryName
  | "seq" => some sequence
  | "expr" => some expression
  | "which" => some locate
  | "kill" => some fun arguments => asProgram 1 (Builtin.kill arguments)
  | "sleep" => some fun arguments =>
    let isTime (word : Text) : Bool :=
      match Format.Decimal.ofText? word with
      | some (_, rest) => rest.isEmpty || ["s", "m", "h", "d"].contains (String.ofList rest)
      | none => false
    return if arguments.isEmpty || !arguments.all isTime then 1 else 0
  | "uname" => some fun arguments =>
    if arguments.all fun word => word.head? == some '-' then Builtin.sayLines ["Linux".toList]
    else return 1
  | "id" => some fun arguments =>
    if arguments.all fun word => word.head? == some '-' then Builtin.sayLines [['0']]
    else return 1
  | "whoami" => some fun arguments =>
    if arguments.isEmpty then Builtin.sayLines ["root".toList] else return 1
  | "sync" => some fun _ => return 0
  | _ => none

end GoAssist.Shell.Program
