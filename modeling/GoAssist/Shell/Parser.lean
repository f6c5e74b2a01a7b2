import GoAssist.Shell.Syntax

/-!
# Reading shell scripts

A script is read one command line at a time, because what a line does may change how the next one is
read. Words are read together with the scripts in them. Texts that stand in place of files are read
where the line ends that asks for them.
-/

namespace GoAssist.Shell

/-! ## Tokens -/

/-- The words that have a meaning where a command begins. -/
def keywords : List String :=
  ["!", "case", "do", "done", "elif", "else", "esac", "fi", "for", "if", "in", "then", "until",
   "while", "\x7b", "\x7d"]

/-- The smallest parts of a command line. -/
inductive Token where
  | word (parts : List Part)
  | keyword (name : String)
  | operator (signs : String)
  /-- A redirection, of which the target is still to be read. -/
  | redirection (descriptor : Nat) (signs : String)
  | lineEnd
  | finish

/-- Whether a token is an operator. -/
def Token.isOperator (signs : String) : Token → Bool
  | .operator other => other == signs
  | _ => false

/-- Whether a token is a keyword. -/
def Token.isKeyword (name : String) : Token → Bool
  | .keyword other => other == name
  | _ => false

/-- Whether a token ends a list of commands inside another command. -/
def Token.endsList : Token → Bool
  | .keyword name => ["do", "done", "elif", "else", "esac", "fi", "then", "\x7d"].contains name
  | .operator signs => signs == ";;" || signs == ")"
  | .finish => true
  | _ => false

/-- A text that is still to be read in place of a file. -/
structure Document where
  /-- The number by which its command knows it. -/
  number : Nat
  /-- The line that ends it. -/
  mark : Text
  /-- Whether parameters in it stand for themselves. -/
  isLiteral : Bool
  /-- Whether tabs at the beginnings of its lines are left out. -/
  dropsTabs : Bool

/-- What a script is read from. -/
structure Source where
  /-- What has not been read. -/
  rest : Text
  /-- Whether the end was met. -/
  ended : Bool
  /-- A token that was read too early. -/
  pushed : Option Token
  /-- The words that stand for others where a command begins. -/
  aliases : List (Text × Text)
  /-- Aliases whose text is being read, with the length of what follows it. -/
  expanding : List (Text × Nat)
  /-- Texts to be read after this line, the last one first. -/
  pending : List Document
  /-- Texts that were read, by their numbers. -/
  documents : List (Nat × List Part)
  /-- The number of the next such text. -/
  nextDocument : Nat

/-- Reads from a source, unless what stands there cannot be read. -/
abbrev Parse := StateT Source Option

/-- What reading depends on where a word stands. -/
inductive Mode where
  /-- Outside of quotes. -/
  | plain
  /-- Inside of quotes. -/
  | quoted
  /-- In braces, outside of quotes. -/
  | braced
  /-- In braces, inside of quotes. -/
  | quotedBraced
  /-- In a text in place of a file. -/
  | document
  /-- In the line that is to end such a text, in which nothing is put in place of anything. -/
  | mark
  /-- In such a line, inside of quotes. -/
  | quotedMark
  /-- In an expression with so many open parentheses. -/
  | expression (depth : Nat)
  deriving DecidableEq

/-- Whether characters are quoted. -/
def Mode.isQuoted : Mode → Bool
  | .plain => false
  | .braced => false
  | .mark => false
  | _ => true

/-- Whether a word that is being read ends at a blank. -/
def Mode.endsAtBlank (mode : Mode) : Bool :=
  mode == .plain || mode == .mark

/-- Whether what is being read ends at a double quote. -/
def Mode.endsAtQuote (mode : Mode) : Bool :=
  mode == .quoted || mode == .quotedMark

/-- Whether everything that is not quoted stands for itself. -/
def Mode.isMark (mode : Mode) : Bool :=
  mode == .mark || mode == .quotedMark

namespace Parse

/-- A failure to read. -/
def fail {α : Type} : Parse α := fun _ => none

/-- What follows, without line ends that are quoted by a backslash. -/
def joinLines : Text → Text
  | '\\' :: '\n' :: rest => joinLines rest
  | text => text

/-- The next character, which is left there. -/
def peek : Parse (Option Char) := do
  let source ← get
  match source.rest with
  | [] => set { source with ended := true }; return none
  | c :: _ => return some c

/-- Passes one character. -/
def advance : Parse Unit :=
  modify fun source => { source with rest := source.rest.drop 1 }

/-- The next character, after line ends that are quoted. -/
def peekJoined : Parse (Option Char) := do
  modify fun source => { source with rest := joinLines source.rest }
  peek

/-- Passes a character if it comes next. -/
def accept (c : Char) : Parse Bool := do
  if (← peekJoined) == some c then advance; return true else return false

/-- Reads characters that pass a test. -/
def takeWhile (test : Char → Bool) : Parse Text := do
  let source ← get
  let taken := source.rest.takeWhile test
  let rest := source.rest.drop taken.length
  set { source with rest := rest, ended := source.ended || rest.isEmpty }
  return taken

/-- The characters at the beginning of a text that pass a test, without line ends that are quoted, and
what follows them. -/
def joinedWhile (test : Char → Bool) : Text → Text × Text
  | '\\' :: '\n' :: rest => joinedWhile test rest
  | c :: rest =>
    if test c then
      let (others, rest) := joinedWhile test rest
      (c :: others, rest)
    else ([], c :: rest)
  | [] => ([], [])

/-- Reads the characters of a name that pass a test. -/
def takeName (test : Char → Bool) : Parse Text := do
  let source ← get
  let (name, rest) := joinedWhile test source.rest
  set { source with rest := rest, ended := source.ended || rest.isEmpty }
  return name

/-- Puts a token back. -/
def unread (token : Token) : Parse Unit :=
  modify fun source => { source with pushed := some token }

/-- Reads up to a single quote. -/
def singleQuoted : Parse (List Part) := do
  let text ← takeWhile (· != '\'')
  if (← peek).isNone then fail else advance
  return if text.isEmpty then [.quotes] else wordOf true text

/-- A quoted line end, a quoted character, or a backslash that quotes nothing. -/
def escaped (mode : Mode) : Parse (List Part) := do
  match ← peek with
  | none => return [.char '\\' true]
  | some '\n' => advance; return []
  | some c =>
    let isEscapable :=
      !mode.isQuoted || c == '\\' || c == '$' || c == '\x60'
        || (c == '"' && (mode.endsAtQuote || mode == .quotedBraced))
        || (c == '\x7d' && mode == .quotedBraced)
    if isEscapable then advance; return [.char c true]
    else return [.char '\\' true]

/-- Whether a character ends a word outside of quotes. -/
def endsWord (c : Char) : Bool :=
  " \t\n;&|<>()".toList.contains c

/-- What stands between back quotes, without the backslashes that quote in them. -/
def backQuoted (isQuoted : Bool) : Text → Option (Text × Text)
  | [] => none
  | '\x60' :: rest => some ([], rest)
  | '\\' :: '\n' :: rest => backQuoted isQuoted rest
  | '\\' :: c :: rest =>
    (backQuoted isQuoted rest).map fun (text, rest) =>
      if c == '\\' || c == '$' || c == '\x60' || (c == '"' && isQuoted) then (c :: text, rest)
      else ('\\' :: c :: text, rest)
  | c :: rest => (backQuoted isQuoted rest).map fun (text, rest) => (c :: text, rest)

/-- The lines of a text before one, and what follows that one. -/
def linesBefore (mark : Text) (dropsTabs : Bool) (text : Text) : (fuel : Nat) → Text × Text
  | 0 => ([], [])
  | fuel + 1 =>
    let line := text.takeWhile (· != '\n')
    let rest := text.drop (line.length + 1)
    let shown := if dropsTabs then line.dropWhile (· == '\t') else line
    if text.isEmpty then ([], [])
    else if shown == mark then ([], rest)
    else
      let lineEnd := if line.length < text.length then ['\n'] else []
      let (others, rest) := linesBefore mark dropsTabs rest fuel
      (shown ++ lineEnd ++ others, rest)

/-- The operator that begins with a sign. -/
def operatorAt (c : Char) : Parse Token := do
  if c == '&' then return .operator (if ← accept '&' then "&&" else "&")
  else if c == '|' then return .operator (if ← accept '|' then "||" else "|")
  else if c == ';' then return .operator (if ← accept ';' then ";;" else ";")
  else return .operator (String.singleton c)

/-- Reads the first of some characters that comes next, and gives the sign that it makes. -/
def signOf (usual : String) : List (Char × String) → Parse String
  | [] => return usual
  | (c, sign) :: others => do
    if ← accept c then return sign else signOf usual others

/-- A redirection that begins with a sign, of a descriptor if one is named. -/
def redirectionAt (descriptor : Option Nat) (c : Char) : Parse Token := do
  if c == '>' then
    let signs ← signOf ">" [('>', ">>"), ('&', ">&"), ('|', ">|")]
    return .redirection (descriptor.getD 1) signs
  else
    let signs ← signOf "<" [('<', "<<"), ('&', "<&"), ('>', "<>")]
    let signs ← if signs == "<<" then signOf signs [('-', "<<-")] else pure signs
    return .redirection (descriptor.getD 0) signs

/-- What an assignment sets, if a word is one. -/
def assignment? (parts : List Part) : Option (Text × List Part) :=
  let rec go (name : Text) : List Part → Option (Text × List Part)
    | .char '=' false :: rest => if isName name.reverse then some (name.reverse, rest) else none
    | .char c false :: rest => go (c :: name) rest
    | _ => none
  go [] parts

/-- The names that a function may not have. -/
def reservedNames : List String :=
  [".", ":", "break", "continue", "eval", "exec", "exit", "export", "readonly", "return", "set",
   "shift", "times", "trap", "unset"]

/-- The form that follows the name of a parameter in braces. -/
def formAt : Parse Form := do
  let isColon ← accept ':'
  match ← peekJoined with
  | some '-' => advance; return .default isColon
  | some '=' => advance; return .assign isColon
  | some '?' => advance; return .demand isColon
  | some '+' => advance; return .alternative isColon
  | some '%' => if isColon then return .bad else advance; return .dropLast (← accept '%')
  | some '#' => if isColon then return .bad else advance; return .dropFirst (← accept '#')
  | some '\x7d' =>
    if isColon then advance
    return .plain
  | some _ => advance; return .bad
  | none => return .bad

/-- The name of a parameter in braces, unless there is none. -/
def parameterName : Parse (Option Text) := do
  match ← peekJoined with
  | none => return none
  | some c =>
    if isNameStart c then return some (← takeName isNameChar)
    else if c.isDigit then return some (← takeName Char.isDigit)
    else if isSpecialName c then advance; return some [c]
    else return none

/-- The name and form of a parameter in braces. A number sign asks for a length, unless it is the name
itself. -/
def braceHead : Parse (Text × Form) := do
  let source ← get
  match source.rest.take 3 with
  | ['#', '\x7d'] => advance; return (['#'], .plain)
  | '#' :: '\x7d' :: _ => advance; return (['#'], .plain)
  | '#' :: c :: more =>
    let isOperator := "-=?+%#:".toList.contains c
    if isOperator && more != ['\x7d'] then
      advance
      return (['#'], ← formAt)
    else
      advance
      match ← parameterName with
      | none => return ([], .bad)
      | some name => return (name, if (← peekJoined) == some '\x7d' then .length else .bad)
  | _ =>
    match ← parameterName with
    | none => return ([], .bad)
    | some name => return (name, ← formAt)

mutual

/-- Reads the parts of a word up to where it ends. -/
def parts (mode : Mode) : (fuel : Nat) → Parse (List Part)
  | 0 => fail
  | fuel + 1 => do
    match ← peek with
    | none => if mode.endsAtBlank || mode == .document then return [] else fail
    | some c =>
      if mode.endsAtBlank && endsWord c then return []
      else if c == '"' && mode.endsAtQuote then return []
      else if c == '\x7d' && (mode == .braced || mode == .quotedBraced) then return []
      else
        advance
        match mode, c with
        | .expression 0, ')' =>
          if (← peek) == some ')' then return []
          else return .char ')' true :: (← parts mode fuel)
        | .expression (depth + 1), ')' => return .char c true :: (← parts (.expression depth) fuel)
        | .expression depth, '(' => return .char c true :: (← parts (.expression (depth + 1)) fuel)
        | _, _ =>
          let first ← part mode c fuel
          return first ++ (← parts mode fuel)

/-- Reads the part of a word that a character begins. -/
def part (mode : Mode) (c : Char) : (fuel : Nat) → Parse (List Part)
  | 0 => fail
  | fuel + 1 => do
    if c == '\\' then escaped mode
    else if c == '\'' && !mode.isQuoted then singleQuoted
    else if c == '"' && mode != .document then
      match mode with
      | .expression _ => return [.char '"' true]
      | _ =>
        let inner ← parts (if mode == .mark then .quotedMark else .quoted) fuel
        advance
        return if inner.isEmpty then [.quotes] else inner
    else if mode.isMark then return [.char c mode.isQuoted]
    else if c == '$' then dollar mode fuel
    else if c == '\x60' then
      let source ← get
      match backQuoted mode.isQuoted source.rest with
      | none => fail
      | some (text, rest) =>
        let inner : Source :=
          { source with rest := text, pushed := none, pending := [], expanding := [] }
        let (body, after) ← (list true false fuel).run inner
        set { source with
          rest := rest, documents := after.documents, nextDocument := after.nextDocument }
        return [.output body mode.isQuoted]
    else return [.char c mode.isQuoted]

/-- Reads what follows a dollar sign. -/
def dollar (mode : Mode) : (fuel : Nat) → Parse (List Part)
  | 0 => fail
  | fuel + 1 => do
    let isQuoted := mode.isQuoted
    match ← peekJoined with
    | none => return [.char '$' isQuoted]
    | some '(' =>
      advance
      if ← accept '(' then
        let expression ← parts (.expression 0) fuel
        advance
        return [.arithmetic expression isQuoted]
      else
        let outer ← get
        set { outer with pushed := none, pending := [] }
        let body ← list true false fuel
        let token ← token false true fuel
        if !token.isOperator ")" then fail
        modify fun source => { source with pushed := none, pending := outer.pending }
        return [.output body isQuoted]
    | some '\x7b' =>
      advance
      let (name, form) ← braceHead
      let inner : Mode :=
        match form with
        | .dropFirst _ => .braced
        | .dropLast _ => .braced
        | _ => if isQuoted then .quotedBraced else .braced
      let word ← parts inner fuel
      advance
      return [.parameter name form word isQuoted]
    | some c =>
      if isNameStart c then
        return [.parameter (← takeName isNameChar) .plain [] isQuoted]
      else if isSpecialName c then
        advance
        return [.parameter [c] .plain [] isQuoted]
      else return [.char '$' isQuoted]

/-- Reads a token without regard to its place. -/
def rawToken (mode : Mode) : (fuel : Nat) → Parse Token
  | 0 => fail
  | fuel + 1 => do
    let source ← get
    match source.pushed with
    | some token => set { source with pushed := none }; return token
    | none =>
      let _ ← takeWhile fun c => c == ' ' || c == '\t'
      match ← peekJoined with
      | none => return .finish
      | some '\n' => advance; return .lineEnd
      | some '#' =>
        let _ ← takeWhile (· != '\n')
        rawToken mode fuel
      | some c =>
        if c == ' ' || c == '\t' then rawToken mode fuel
        else if c == '<' || c == '>' then
          advance
          redirectionAt none c
        else if endsWord c then
          advance
          operatorAt c
        else
          let word ← parts mode fuel
          let next ← peek
          match literal? word, next with
          | some [digit], some sign =>
            if digit.isDigit && (sign == '<' || sign == '>') then
              advance
              redirectionAt (some (digit.toNat - '0'.toNat)) sign
            else return .word word
          | _, _ => return .word word

/-- Reads the texts that the line before asked for. -/
def readDocuments : (fuel : Nat) → Parse Unit
  | 0 => fail
  | fuel + 1 => do
    let source ← get
    match source.pending.reverse with
    | [] => return
    | document :: others =>
      let (text, rest) :=
        linesBefore document.mark document.dropsTabs source.rest (source.rest.length + 1)
      let body ←
        if document.isLiteral then pure (wordOf true text)
        else do
          let inner : Source := { source with rest := text, pushed := none, pending := [] }
          let (body, after) ← (parts .document fuel).run inner
          modify fun source => { source with
            documents := after.documents, nextDocument := after.nextDocument }
          pure body
      modify fun source => { source with
        rest := rest
        pending := others.reverse
        documents := (document.number, body) :: source.documents }
      readDocuments fuel

/-- Reads a token, after line ends if they may stand there, and finds keywords and aliases among
words if a command may begin there. -/
def token (skipsLines isStart : Bool) : (fuel : Nat) → Parse Token
  | 0 => fail
  | fuel + 1 => do
    match ← rawToken .plain fuel with
    | .lineEnd =>
      if skipsLines then
        readDocuments fuel
        token skipsLines isStart fuel
      else return .lineEnd
    | .word word =>
      match if isStart then literal? word else none with
      | none => return .word word
      | some text =>
        if keywords.contains (String.ofList text) then return .keyword (String.ofList text)
        else
          let source ← get
          match source.aliases.lookup text with
          | none => return .word word
          | some meaning =>
            let isOpen := source.expanding.any fun (name, left) =>
              name == text && left ≤ source.rest.length
            if isOpen then return .word word
            else
              set { source with
                rest := meaning ++ source.rest
                expanding := (text, source.rest.length) :: source.expanding }
              token skipsLines isStart fuel
    | token => return token

/-- Reads commands up to the end of a line, or up to a token that ends a list if `isInner`. The list
may be empty if `allowsNone`. -/
def list (isInner endsAtLine : Bool) : (fuel : Nat) → Parse (Option Command)
  | 0 => fail
  | fuel + 1 => commands none isInner endsAtLine fuel

/-- Reads the commands that follow one. -/
def commands (before : Option Command) (allowsNone endsAtLine : Bool) :
    (fuel : Nat) → Parse (Option Command)
  | 0 => fail
  | fuel + 1 => do
    let first ← token (!endsAtLine) true fuel
    match first with
    | .lineEnd =>
      readDocuments fuel
      return before
    | .finish =>
      readDocuments fuel
      unread .finish
      return before
    | first =>
      unread first
      if (allowsNone || before.isSome) && !endsAtLine && first.endsList then return before
      let command ← andOr false true fuel
      let after ← token false true fuel
      let command := if after.isOperator "&" then .background command else command
      let whole := match before with
        | none => command
        | some before => .joined before .next command
      match after with
      | .lineEnd =>
        readDocuments fuel
        if endsAtLine then return some whole
        else commands (some whole) allowsNone endsAtLine fuel
      | .finish =>
        readDocuments fuel
        unread .finish
        return some whole
      | .operator signs =>
        if signs == ";" || signs == "&" then commands (some whole) allowsNone endsAtLine fuel
        else if endsAtLine then fail
        else
          unread after
          return some whole
      | other =>
        if endsAtLine then fail
        else
          unread other
          return some whole

/-- Reads pipelines between signs that make one hang on the other. -/
def andOr (skipsLines isStart : Bool) : (fuel : Nat) → Parse Command
  | 0 => fail
  | fuel + 1 => do
    let first ← pipeline skipsLines isStart fuel
    andOrAfter first fuel

/-- Reads the pipelines that hang on one. -/
def andOrAfter (first : Command) : (fuel : Nat) → Parse Command
  | 0 => fail
  | fuel + 1 => do
    let joint ← token false false fuel
    if joint.isOperator "&&" then
      andOrAfter (.joined first .and (← pipeline true true fuel)) fuel
    else if joint.isOperator "||" then
      andOrAfter (.joined first .or (← pipeline true true fuel)) fuel
    else
      unread joint
      return first

/-- Reads commands whose results go to the next one. -/
def pipeline (skipsLines isStart : Bool) : (fuel : Nat) → Parse Command
  | 0 => fail
  | fuel + 1 => do
    let first ← token skipsLines isStart fuel
    let isNegated := first.isKeyword "!"
    if !isNegated then unread first
    let stages ← stages (← command false true fuel) fuel
    let whole := match stages with
      | [only] => only
      | stages => .pipeline stages
    return if isNegated then .negated whole else whole

/-- Reads the stages of a pipeline after the first. -/
def stages (first : Command) : (fuel : Nat) → Parse (List Command)
  | 0 => fail
  | fuel + 1 => do
    let joint ← token false false fuel
    if joint.isOperator "|" then return first :: (← stages (← command true true fuel) fuel)
    else
      unread joint
      return [first]

/-- Reads a keyword that has to come next. -/
def expect (name : String) : (fuel : Nat) → Parse Unit
  | 0 => fail
  | fuel + 1 => do
    let found ← token false true fuel
    if !found.isKeyword name then fail

/-- Reads commands of which there has to be one. -/
def body : (fuel : Nat) → Parse Command
  | 0 => fail
  | fuel + 1 => do
    match ← list false false fuel with
    | some command => return command
    | none => fail

/-- Reads a command. -/
def command (skipsLines isStart : Bool) : (fuel : Nat) → Parse Command
  | 0 => fail
  | fuel + 1 => do
    match ← token skipsLines isStart fuel with
    | .keyword "if" =>
      let whole ← conditional fuel
      withRedirections whole fuel
    | .keyword "while" =>
      let test ← body fuel
      expect "do" fuel
      let commands ← body fuel
      expect "done" fuel
      withRedirections (.loop test true commands) fuel
    | .keyword "until" =>
      let test ← body fuel
      expect "do" fuel
      let commands ← body fuel
      expect "done" fuel
      withRedirections (.loop test false commands) fuel
    | .keyword "for" =>
      let whole ← forEach fuel
      withRedirections whole fuel
    | .keyword "case" =>
      match ← token false false fuel with
      | .word subject =>
        let next ← token true true fuel
        if !next.isKeyword "in" then fail
        withRedirections (.choice subject (← arms fuel)) fuel
      | _ => fail
    | .operator "(" =>
      let commands ← body fuel
      let last ← token false true fuel
      if !last.isOperator ")" then fail
      withRedirections (.subshell commands) fuel
    | .keyword "\x7b" =>
      let commands ← body fuel
      expect "\x7d" fuel
      withRedirections commands fuel
    | .word word =>
      unread (.word word)
      simple true [] [] [] fuel
    | .redirection descriptor signs =>
      unread (.redirection descriptor signs)
      simple true [] [] [] fuel
    | _ => fail

/-- Reads a condition after its first keyword. -/
def conditional : (fuel : Nat) → Parse Command
  | 0 => fail
  | fuel + 1 => do
    let test ← body fuel
    expect "then" fuel
    let yes ← body fuel
    let next ← token false true fuel
    if next.isKeyword "elif" then return .conditional test yes (some (← conditional fuel))
    else if next.isKeyword "else" then
      let no ← body fuel
      expect "fi" fuel
      return .conditional test yes (some no)
    else if next.isKeyword "fi" then return .conditional test yes none
    else fail

/-- Reads a loop over words after its first keyword. -/
def forEach : (fuel : Nat) → Parse Command
  | 0 => fail
  | fuel + 1 => do
    let name ← match ← token false false fuel with
      | .word word => (literal? word : Option Text)
      | _ => fail
    if !isName name then fail
    let next ← token true true fuel
    let words ←
      if next.isKeyword "in" then wordList fuel
      else do
        if !next.isOperator ";" then unread next
        pure [[.parameter ['@'] .plain [] true]]
    let start ← token true true fuel
    if !start.isKeyword "do" then fail
    let commands ← body fuel
    expect "done" fuel
    return .forEach name words commands

/-- Reads words up to the end of their line. -/
def wordList : (fuel : Nat) → Parse (List (List Part))
  | 0 => fail
  | fuel + 1 => do
    match ← token false false fuel with
    | .word word => return word :: (← wordList fuel)
    | .lineEnd => readDocuments fuel; return []
    | .operator ";" => return []
    | _ => fail

/-- Reads the arms of a choice. -/
def arms : (fuel : Nat) → Parse (List (List (List Part) × Option Command))
  | 0 => fail
  | fuel + 1 => do
    let first ← token true true fuel
    if first.isKeyword "esac" then return []
    let first ← if first.isOperator "(" then token false false fuel else pure first
    let patterns ← patterns first fuel
    let commands ← list true false fuel
    let arm := (patterns, commands)
    let last ← token true true fuel
    if last.isKeyword "esac" then return [arm]
    else if last.isOperator ";;" then return arm :: (← arms fuel)
    else fail

/-- Reads the patterns of an arm, the first of which was read. -/
def patterns (first : Token) : (fuel : Nat) → Parse (List (List Part))
  | 0 => fail
  | fuel + 1 => do
    let pattern ← match first with
      | .word word => pure word
      | .keyword name => pure (wordOf false name.toList)
      | _ => fail
    let next ← token false false fuel
    if next.isOperator "|" then
      let following ← token false false fuel
      return pattern :: (← patterns following fuel)
    else if next.isOperator ")" then return [pattern]
    else fail

/-- Reads redirections after a command. -/
def withRedirections (command : Command) : (fuel : Nat) → Parse Command
  | 0 => fail
  | fuel + 1 => do
    match ← redirections fuel with
    | [] => return command
    | found => return .redirected command found

/-- Reads redirections. -/
def redirections : (fuel : Nat) → Parse (List (Nat × Target))
  | 0 => fail
  | fuel + 1 => do
    match ← token false true fuel with
    | .redirection descriptor signs =>
      let target ← target signs fuel
      return (descriptor, target) :: (← redirections fuel)
    | other =>
      unread other
      return []

/-- Reads the target of a redirection. -/
def target (signs : String) : (fuel : Nat) → Parse Target
  | 0 => fail
  | fuel + 1 => do
    let isDocument := signs == "<<" || signs == "<<-"
    match ← rawToken (if isDocument then .mark else .plain) fuel with
    | .word word =>
      match signs with
      | ">" => return .file .write word
      | ">|" => return .file .rewrite word
      | ">>" => return .file .append word
      | "<" => return .file .read word
      | "<>" => return .file .readWrite word
      | ">&" => return .descriptor word
      | "<&" => return .descriptor word
      | _ =>
        let mark := word.filterMap fun part =>
          match part with
          | .char c _ => some c
          | _ => none
        let source ← get
        let document : Document :=
          ⟨source.nextDocument, mark, (literal? word).isNone, signs == "<<-"⟩
        set { source with
          pending := document :: source.pending, nextDocument := source.nextDocument + 1 }
        return .document document.number
    | _ => fail

/-- Reads the rest of a simple command; its parts so far are given, the last ones first. -/
def simple (isStart : Bool) (assignments : List (Text × List Part)) (words : List (List Part))
    (found : List (Nat × Target)) : (fuel : Nat) → Parse Command
  | 0 => fail
  | fuel + 1 => do
    match ← simpleToken isStart fuel with
    | .word word =>
      match if isStart then assignment? word else none with
      | some assigned => simple true (assigned :: assignments) words found fuel
      | none => simple false assignments (word :: words) found fuel
    | .redirection descriptor signs =>
      let target ← target signs fuel
      simple isStart assignments words ((descriptor, target) :: found) fuel
    | .operator "(" =>
      match words, assignments, found with
      | [word], [], [] =>
        let next ← token false false fuel
        let name ← (literal? word : Option Text)
        if !next.isOperator ")" || !isName name || reservedNames.contains (String.ofList name) then
          fail
        return .definition name (← command true true fuel)
      | _, _, _ =>
        unread (.operator "(")
        return .simple assignments.reverse words.reverse found.reverse
    | other =>
      unread other
      return .simple assignments.reverse words.reverse found.reverse

/-- Reads a token of a simple command. Keywords have no meaning in it, but an alias may. -/
def simpleToken (isStart : Bool) : (fuel : Nat) → Parse Token
  | 0 => fail
  | fuel + 1 => do
    let isPushed := (← get).pushed.isSome
    match ← token false (isStart && !isPushed) fuel with
    | .keyword name => return .word (wordOf false name.toList)
    | other => return other

end

end Parse

/-! ## Lines -/

/-- What a line of a script is. -/
inductive Line where
  /-- Commands to be carried out, and what is left after them. -/
  | commands (command : Option Command) (after : Source)
  /-- Nothing is left. -/
  | finished
  /-- A line that cannot be read. -/
  | fault

/-- How many steps reading a text may take. -/
def parseFuel (text : Text) : Nat :=
  text.length * 8 + 256

/-- Reads a line of a script. The texts in place of files are numbered from `nextDocument` on. -/
def readLine (aliases : List (Text × Text)) (nextDocument : Nat) (text : Text) : Line :=
  let source : Source := ⟨text, false, none, aliases, [], [], [], nextDocument⟩
  match (Parse.list false true (parseFuel text)).run source with
  | none => .fault
  | some (none, source) =>
    match source.pushed with
    | some _ => .finished
    | none => .commands none source
  | some (command, source) => .commands command source

end GoAssist.Shell
