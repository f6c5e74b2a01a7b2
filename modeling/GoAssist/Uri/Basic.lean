import GoAssist.Uri.Host

/-!
# Addresses

An address names a document by a scheme, perhaps a host, and a path. `Uri.read` takes the many ways to
write one to a single form, and refuses what has no scheme or names a host that cannot be. So two
texts are the same address if they are read alike.
-/

namespace GoAssist

open Uri

/-- An address in its final form. -/
structure Uri where
  /-- How the address is to be understood. -/
  scheme : List Char
  /-- The user, the host and the port, as far as they are named. -/
  authority : Option (List Char)
  /-- The path. -/
  path : List Char
  /-- What follows a question mark. -/
  query : Option (List Char)
  /-- What follows a number sign. -/
  fragment : Option (List Char)
  deriving DecidableEq, Repr

namespace Uri

/-- An address as it is written. A path that begins with two slashes would look like a host. -/
def toText (uri : Uri) : List Char :=
  let rest (sign : Char) : Option (List Char) → List Char
    | some text => sign :: text
    | none => []
  let authority :=
    match uri.authority with
    | some authority => '/' :: '/' :: authority
    | none => if ['/', '/'].isPrefixOf uri.path then ['/', '.'] else []
  uri.scheme ++ ':' :: authority ++ uri.path ++ rest '?' uri.query ++ rest '#' uri.fragment

/-! ## Schemes -/

/-- The schemes that say what hosts are, with the ports that they use. -/
def defaultPorts : List (List Char × Option Nat) :=
  [("http".toList, some 80), ("https".toList, some 443), ("ws".toList, some 80),
   ("wss".toList, some 443), ("ftp".toList, some 21), ("file".toList, none)]

/-- Whether a scheme says what hosts are. -/
def isSpecial (scheme : List Char) : Bool :=
  (defaultPorts.lookup scheme).isSome

/-- Whether a scheme names files. -/
def isFile (scheme : List Char) : Bool :=
  scheme == "file".toList

/-- The scheme and what follows its colon. -/
def splitScheme? (text : List Char) : Option (List Char × List Char) :=
  let scheme := text.takeWhile fun c => c.isAlphanum || c == '+' || c == '-' || c == '.'
  match text.drop scheme.length with
  | ':' :: rest =>
    if (scheme.head?).any Char.isAlpha then some (scheme.map Char.toLower, rest) else none
  | _ => none

/-! ## Paths -/

/-- Whether a character ends a part of a path. -/
def isSlash (special : Bool) (c : Char) : Bool :=
  c == '/' || (special && c == '\\')

/-- Whether a part of a path stays where it is. -/
def isDot (part : List Char) : Bool :=
  [".", "%2e"].contains (String.ofList (part.map Char.toLower))

/-- Whether a part of a path goes up. -/
def isDoubleDot (part : List Char) : Bool :=
  ["..", ".%2e", "%2e.", "%2e%2e"].contains (String.ofList (part.map Char.toLower))

/-- Whether a part of a path is a letter that names a drive. -/
def isDrive : List Char → Bool
  | [letter, sign] => letter.isAlpha && (sign == ':' || sign == '|')
  | _ => false

/-- The parts of a path without the last; a drive that is all of it stays. -/
def goUp (file : Bool) (parts : List (List Char)) : List (List Char) :=
  match parts with
  | [only] => if file && isDrive only then [only] else []
  | parts => parts.dropLast

/-- Follows the parts of a path from those in `before`. A path that ends in dots ends in a slash. -/
def follow (file : Bool) (before : List (List Char)) : List (List Char) → List (List Char)
  | [] => before
  | part :: rest =>
    if isDoubleDot part then
      follow file (goUp file before ++ if rest.isEmpty then [[]] else []) rest
    else if isDot part then follow file (before ++ if rest.isEmpty then [[]] else []) rest
    else if file && before.all List.isEmpty && isDrive part then
      follow file (before ++ [part.take 1 ++ [':']]) rest
    else follow file (before ++ [part]) rest

/-- The path that a text spells after its first slash. Files have no empty parts at its beginning. -/
def pathAfterSlash (scheme : List Char) (text : List Char) : List Char :=
  let special := isSpecial scheme
  let slashed := text.map fun c => if isSlash special c then '/' else c
  let parts := follow (isFile scheme) [] ((pieces '/' slashed).map (percentEncode pathKeeps))
  let kept :=
    if isFile scheme then
      match parts.dropWhile List.isEmpty with
      | [] => [[]]
      | kept => kept
    else parts
  kept.flatMap ('/' :: ·)

/-- The path that follows a host. -/
def pathAfterHost (scheme : List Char) (text : List Char) : List Char :=
  match text with
  | [] => if isSpecial scheme then ['/'] else []
  | first :: rest => pathAfterSlash scheme (if isSlash (isSpecial scheme) first then rest else text)

/-! ## Hosts with users and ports -/

/-- The user as it is written before the host, with a colon before the password. -/
def userText (text : List Char) : List Char :=
  let name := percentEncode userKeeps (text.takeWhile (· != ':'))
  let password := percentEncode userKeeps ((text.dropWhile (· != ':')).drop 1)
  if name.isEmpty && password.isEmpty then []
  else if password.isEmpty then name ++ ['@']
  else name ++ ':' :: password ++ ['@']

/-- What comes before the last `@`, if there is one, and after it. -/
def splitUser (text : List Char) : Option (List Char) × List Char :=
  let host := (text.reverse.takeWhile (· != '@')).reverse
  if host.length = text.length then (none, text)
  else (some (text.take (text.length - host.length - 1)), host)

/-- What comes before a colon that is not in brackets, and what comes after it. -/
def splitPort (inBrackets : Bool) : List Char → List Char × Option (List Char)
  | [] => ([], none)
  | c :: rest =>
    if c = ':' ∧ !inBrackets then ([], some rest)
    else
      let (host, port) := splitPort (c == '[' || (inBrackets && c != ']')) rest
      (c :: host, port)

/-- A port as it is written, unless it is the one that the scheme uses anyway. -/
def portText? (scheme : List Char) (digits : List Char) : Option (List Char) :=
  if digits.isEmpty then some []
  else if !digits.all Char.isDigit || 65535 < numberOf 10 digits then none
  else
    let port := numberOf 10 digits
    if defaultPorts.lookup scheme = some (some port) then some []
    else some (':' :: (toString port).toList)

/-- A user, a host and a port. A host has to be named if a user or a port is, or if the scheme says
what hosts are. -/
def authority? (scheme text : List Char) : Option (List Char) := do
  let (user, rest) := splitUser text
  let (host, port) := splitPort false rest
  let host ← if isSpecial scheme then specialHost? host else opaqueHost? host
  let port ← match port with
    | none => some none
    | some digits => (portText? scheme digits).map some
  let name := (user.map userText).getD []
  if host.isEmpty && (port.isSome || !name.isEmpty || user == some []) then none
  else some (name ++ host ++ port.getD [])

/-- The host of a file, which is not named if it is this one. -/
def fileHost? (text : List Char) : Option (List Char) :=
  if text.isEmpty then some []
  else (specialHost? text).map fun host => if host == "localhost".toList then [] else host

/-! ## Reading -/

/-- The authority and path of an address of a file. -/
def readFile? (text : List Char) : Option (List Char × List Char) :=
  let scheme := "file".toList
  match text with
  | first :: second :: rest =>
    if isSlash true first && isSlash true second then
      let named := rest.takeWhile fun c => !isSlash true c
      if isDrive named then some ([], pathAfterHost scheme rest)
      else do
        let host ← fileHost? named
        let path := pathAfterHost scheme (rest.drop named.length)
        let startsWithDrive := isDrive ((path.drop 1).takeWhile (· != '/'))
        return (if startsWithDrive then [] else host, path)
    else some ([], pathAfterHost scheme text)
  | _ => some ([], pathAfterHost scheme text)

/-- The authority and path that follow a scheme. -/
def readHierarchy? (scheme text : List Char) : Option (Option (List Char) × List Char) :=
  let special := isSpecial scheme
  if isFile scheme then (readFile? text).map fun (host, path) => (some host, path)
  else
    let rest? :=
      if special then some (text.dropWhile (isSlash true))
      else
        match text with
        | '/' :: '/' :: rest => some rest
        | _ => none
    match rest? with
    | some rest => do
      let named := rest.takeWhile fun c => !isSlash special c
      return (some (← authority? scheme named), pathAfterHost scheme (rest.drop named.length))
    | none =>
      match text with
      | '/' :: rest => some (none, pathAfterSlash scheme rest)
      | _ => some (none, percentEncode isPrintable text)

/-- Whether a character at the ends of a text does not belong to its address. -/
def isMargin (c : Char) : Bool :=
  c ≤ ' '

/-- A text without its margins and without tabs and line ends. -/
def cleaned (text : List Char) : List Char :=
  ((text.dropWhile isMargin).reverse.dropWhile isMargin).reverse.filter fun c =>
    !(c == '\t' || c == '\n' || c == '\r')

/-- What comes before a sign, and what comes after it if it is there. -/
def cutAt (sign : Char) (text : List Char) : List Char × Option (List Char) :=
  match text.dropWhile (· != sign) with
  | [] => (text, none)
  | _ :: rest => (text.takeWhile (· != sign), some rest)

/-- The address that a text spells. -/
def read (text : List Char) : Option Uri := do
  let (scheme, rest) ← splitScheme? (cleaned text)
  let (rest, fragment) := cutAt '#' rest
  let (rest, query) := cutAt '?' rest
  let (authority, path) ← readHierarchy? scheme rest
  return ⟨scheme, authority, path, query.map (percentEncode (queryKeeps (isSpecial scheme))),
    fragment.map (percentEncode fragmentKeeps)⟩

/-- The one form in which the address of a text is written. -/
def normalize? (text : String) : Option String :=
  (read text.toList).map fun uri => String.ofList uri.toText

end Uri

end GoAssist
