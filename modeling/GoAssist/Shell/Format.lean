import GoAssist.Shell.Number

/-!
# Formatted texts

A format is written once for each group of arguments: its directives stand for arguments, and its
backslashes for characters that are hard to write. A number that cannot be read is written as far as
it can be, and makes the whole fail. A format without signs stands for itself (`run_plain`).
-/

namespace GoAssist.Shell.Format

/-! ## Escapes -/

/-- The letters that stand for characters after a backslash. -/
def escapes : List (Char × Char) :=
  [('\\', '\\'), ('a', '\x07'), ('b', '\x08'), ('e', '\x1b'), ('f', '\x0c'), ('n', '\n'), ('r', '\r'),
   ('t', '\t'), ('v', '\x0b')]

/-- Whether a character is a digit to base eight. -/
def isOctal (c : Char) : Bool :=
  '0' ≤ c && c ≤ '7'

/-- The character that stands after a backslash, and what follows it. -/
def escaped (text : Text) : Char × Text :=
  match text with
  | [] => ('\\', [])
  | c :: rest =>
    if isOctal c then
      let found := (text.take 3).takeWhile isOctal
      (Char.ofNat (numberOf 8 found % 256), text.drop found.length)
    else
      match escapes.lookup c with
      | some meaning => (meaning, rest)
      | none => ('\\', text)

/-- A text with its escapes read, and whether one of them ended it. The fuel is its length. -/
def unescapeWithin : (fuel : Nat) → Text → Text × Bool
  | 0, _ => ([], false)
  | _, [] => ([], false)
  | fuel + 1, '\\' :: rest =>
    match rest with
    | 'c' :: _ => ([], true)
    | _ =>
      let (c, after) :=
        match rest with
        | '0' :: digit :: more => if isOctal digit then escaped (digit :: more) else escaped rest
        | _ => escaped rest
      let (others, ended) := unescapeWithin fuel after
      (c :: others, ended)
  | fuel + 1, c :: rest =>
    let (others, ended) := unescapeWithin fuel rest
    (c :: others, ended)

/-- A text with its escapes read, and whether one of them ended it. -/
def unescape (text : Text) : Text × Bool :=
  unescapeWithin text.length text

/-- What is printed for words. -/
def echo (words : List Text) : Text :=
  let (endsLine, words) :=
    match words with
    | ['-', 'n'] :: rest => (false, rest)
    | _ => (true, words)
  let (text, ended) := unescape ([' '].intercalate words)
  if endsLine && !ended then text ++ ['\n'] else text

/-! ## Numbers with a point -/

/-- The number `digits · 10 ^ exponent`. -/
structure Decimal where
  isNegative : Bool
  digits : Nat
  exponent : Int
  deriving Repr

namespace Decimal

/-- A quotient, rounded to the nearest number; a half goes to the even one. -/
def roundedQuotient (dividend divisor : Nat) : Nat :=
  let quotient := dividend / divisor
  let twice := 2 * (dividend % divisor)
  if divisor < twice ∨ (twice = divisor ∧ quotient % 2 = 1) then quotient + 1 else quotient

/-- The digits of a number times a power of ten, rounded. -/
def scaled (number : Decimal) (power : Int) : Nat :=
  let total := number.exponent + power
  if 0 ≤ total then number.digits * Nat.pow 10 total.toNat
  else roundedQuotient number.digits (Nat.pow 10 (-total).toNat)

/-- Digits with a point before the last `places` of them. -/
def pointed (places : Nat) (digits : Nat) : Text :=
  let text := (toString digits).toList
  let text := List.replicate (places + 1 - text.length) '0' ++ text
  let whole := text.take (text.length - places)
  if places = 0 then whole else whole ++ ['.'] ++ text.drop (text.length - places)

/-- A number with so many places after the point. -/
def fixed (places : Nat) (number : Decimal) : Text :=
  pointed places (number.scaled places)

/-- The digits and the power of ten of a number, with so many places after the point. -/
def normal (places : Nat) (number : Decimal) : Nat × Int :=
  if number.digits = 0 then (0, 0)
  else
    let power := (toString number.digits).length + number.exponent - 1
    let digits := number.scaled (places - power)
    if Nat.pow 10 (places + 1) ≤ digits then (digits / 10, power + 1) else (digits, power)

/-- A number with its power of ten. -/
def scientific (places : Nat) (number : Decimal) : Text :=
  let (digits, power) := number.normal places
  let written := (toString power.natAbs).toList
  pointed places digits ++ ['e', if power < 0 then '-' else '+']
    ++ List.replicate (2 - written.length) '0' ++ written

/-- A number without the zeros after its point. -/
def trimmed (text : Text) : Text :=
  let mantissa := text.takeWhile (· != 'e')
  let rest := text.drop mantissa.length
  if mantissa.contains '.' then
    let kept := (mantissa.reverse.dropWhile (· == '0')).dropWhile (· == '.')
    kept.reverse ++ rest
  else text

/-- A number in the shorter form, with so many digits. -/
def general (size : Nat) (number : Decimal) : Text :=
  let size := max size 1
  let (_, power) := number.normal (size - 1)
  if -4 ≤ power ∧ power < size then trimmed (number.fixed (size - 1 - power).toNat)
  else trimmed (number.scientific (size - 1))

/-- Reads a number with a point, unless there is none. -/
def ofText? (text : Text) : Option (Decimal × Text) :=
  let text := text.dropWhile Number.isSpace
  let (isNegative, text) :=
    match text with
    | '-' :: rest => (true, rest)
    | '+' :: rest => (false, rest)
    | _ => (false, text)
  let (whole, rest) := Number.digits 10 text
  let (places, rest) :=
    match rest with
    | '.' :: after => if whole.isEmpty && !(after.head?.any Char.isDigit) then ([], rest)
        else Number.digits 10 after
    | _ => ([], rest)
  if whole.isEmpty && places.isEmpty then none
  else
    let power : Option (Int × Text) :=
      match rest with
      | e :: after =>
        if e == 'e' || e == 'E' then
          if after.head?.any Number.isSpace then none else Number.signed? false after
        else none
      | [] => none
    let (power, rest) := power.getD (0, rest)
    some (⟨isNegative, Number.ofDigits 10 (whole ++ places), power - places.length⟩, rest)

end Decimal

/-! ## Directives -/

/-- How an argument is written. -/
structure Shape where
  flags : Text
  width : Nat
  isLeft : Bool
  precision : Option Nat

/-- A text, brought to its width. -/
def Shape.pad (shape : Shape) (text : Text) : Text :=
  let blanks := List.replicate (shape.width - text.length) ' '
  if shape.isLeft then text ++ blanks else blanks ++ text

/-- A number with what stands before it, brought to its width. -/
def Shape.padNumber (shape : Shape) (mayFill : Bool) (lead text : Text) : Text :=
  if shape.flags.contains '0' && !shape.isLeft && mayFill then
    lead ++ List.replicate (shape.width - lead.length - text.length) '0' ++ text
  else shape.pad (lead ++ text)

/-- What stands before a number for its sign. -/
def Shape.lead (shape : Shape) (isNegative : Bool) : Text :=
  if isNegative then ['-']
  else if shape.flags.contains '+' then ['+']
  else if shape.flags.contains ' ' then [' ']
  else []

/-- Digits, as many as asked for at least. -/
def Shape.filled (shape : Shape) (digits : Text) : Text :=
  match shape.precision with
  | none => digits
  | some 0 => if digits = ['0'] then [] else digits
  | some size => List.replicate (size - digits.length) '0' ++ digits

/-- A whole number. -/
def Shape.integer (shape : Shape) (letter : Char) (n : Int64) : Text :=
  if letter == 'd' || letter == 'i' then
    let m := n.toInt
    shape.padNumber shape.precision.isNone (shape.lead (decide (m < 0)))
      (shape.filled (toString m.natAbs).toList)
  else
    let m := n.toUInt64.toNat
    let isMarked := shape.flags.contains '#'
    match letter with
    | 'o' =>
      let digits := Nat.toDigits 8 m
      shape.padNumber shape.precision.isNone []
        (shape.filled (if isMarked && m ≠ 0 then '0' :: digits else digits))
    | 'x' =>
      shape.padNumber shape.precision.isNone (if isMarked && m ≠ 0 then ['0', 'x'] else [])
        (shape.filled (hexDigits m))
    | 'X' =>
      shape.padNumber shape.precision.isNone (if isMarked && m ≠ 0 then ['0', 'X'] else [])
        (shape.filled ((hexDigits m).map Char.toUpper))
    | _ => shape.padNumber shape.precision.isNone [] (shape.filled (toString m).toList)

/-- A number with a point. -/
def Shape.decimal (shape : Shape) (letter : Char) (number : Decimal) : Text :=
  let places := shape.precision.getD 6
  let text :=
    match letter.toLower with
    | 'e' => number.scientific places
    | 'g' => number.general places
    | _ => number.fixed places
  let text := if letter.isUpper then text.map Char.toUpper else text
  shape.padNumber true (shape.lead number.isNegative) text

/-! ## Formats -/

/-- A text that is being written. -/
structure Work where
  /-- The arguments that were not used. -/
  arguments : List Text
  /-- What was written, backwards. -/
  written : Text
  /-- Whether some number could not be read. -/
  hasFailed : Bool

/-- How a format ends. -/
inductive Ending where
  | done
  /-- An escape in an argument ended it. -/
  | stopped
  /-- The format cannot be read. -/
  | bad
  deriving DecidableEq

namespace Work

/-- The next argument, if there is one. -/
def next (work : Work) : Option Text × Work :=
  (work.arguments.head?, { work with arguments := work.arguments.drop 1 })

/-- Writes a text. -/
def write (work : Work) (text : Text) : Work :=
  { work with written := text.reverse ++ work.written }

/-- The next argument as a whole number. -/
def nextInteger (work : Work) : Int64 × Work :=
  match work.next with
  | (none, work) => (0, work)
  | (some text, work) =>
    if text.head? == some '\'' || text.head? == some '"' then
      (Int64.ofInt ((text[1]?.map Char.toNat).getD 0), work)
    else
      match Number.signed? true text with
      | some (n, rest) =>
        let fits := decide (Number.smallest ≤ n) && decide (n ≤ 2 * Number.largest + 1)
        (if n ≤ Number.largest then Number.nearest n else Int64.ofInt n,
          { work with hasFailed := work.hasFailed || !rest.isEmpty || !fits })
      | none => (0, { work with hasFailed := work.hasFailed || !text.isEmpty })

/-- The next argument as a whole number with a sign. -/
def nextSigned (work : Work) : Int64 × Work :=
  match work.arguments.head?.bind (Number.signed? true) with
  | some (n, _) =>
    if Number.largest < n then
      (Number.nearest n, { work.next.2 with hasFailed := true })
    else work.nextInteger
  | none => work.nextInteger

/-- The next argument as a number with a point. -/
def nextDecimal (work : Work) : Decimal × Work :=
  match work.next with
  | (none, work) => (⟨false, 0, 0⟩, work)
  | (some text, work) =>
    if text.head? == some '\'' || text.head? == some '"' then
      (⟨false, (text[1]?.map Char.toNat).getD 0, 0⟩, work)
    else
      match Decimal.ofText? text with
      | some (n, rest) => (n, { work with hasFailed := work.hasFailed || !rest.isEmpty })
      | none => (⟨false, 0, 0⟩, { work with hasFailed := work.hasFailed || !text.isEmpty })

/-- A count in a directive, given in it or as an argument. -/
def count (work : Work) (format : Text) : Option Int × Text × Work :=
  match format with
  | '*' :: rest =>
    let (n, work) := work.nextSigned
    (some n.toInt, rest, work)
  | _ =>
    let (digits, rest) := Number.digits 10 format
    (if digits.isEmpty then none else some (Number.ofDigits 10 digits), rest, work)

/-- Writes an argument as a directive asks. -/
def directive (work : Work) (shape : Shape) (letter : Char) : Work × Ending :=
  if "diouxX".toList.contains letter then
    let (n, work) :=
      if letter == 'd' || letter == 'i' then work.nextSigned else work.nextInteger
    (work.write (shape.integer letter n), .done)
  else if "eEfFgGaA".toList.contains letter then
    let (number, work) := work.nextDecimal
    (work.write (shape.decimal letter number), .done)
  else if letter == 's' then
    let (argument, work) := work.next
    let text := argument.getD []
    let text :=
      match shape.precision with
      | some size => text.take size
      | none => text
    (work.write (shape.pad text), .done)
  else if letter == 'c' then
    let (argument, work) := work.next
    (work.write (shape.pad [((argument.getD []).head?).getD '\x00']), .done)
  else if letter == 'b' then
    let (argument, work) := work.next
    let (text, ended) := unescape (argument.getD [])
    let text :=
      match shape.precision with
      | some size => text.take size
      | none => text
    (work.write (shape.pad text), if ended then .stopped else .done)
  else (work, .bad)

/-- Writes a format once. The fuel is its length. -/
def format (work : Work) : (fuel : Nat) → Text → Work × Ending
  | 0, _ => (work, .done)
  | _, [] => (work, .done)
  | fuel + 1, '\\' :: rest =>
    let (c, rest) := escaped rest
    (work.write [c]).format fuel rest
  | fuel + 1, '%' :: '%' :: rest => (work.write ['%']).format fuel rest
  | fuel + 1, '%' :: rest =>
    let flags := rest.takeWhile fun c => "#-+ 0".toList.contains c
    let (width, rest, work) := work.count (rest.drop flags.length)
    let (precision, rest, work) : Option Int × Text × Work :=
      match rest with
      | '.' :: rest =>
        let (precision, rest, work) := work.count rest
        (some (precision.getD 0), rest, work)
      | _ => (none, rest, work)
    match rest with
    | [] => (work, .bad)
    | letter :: rest =>
      let width := width.getD 0
      let shape : Shape :=
        { flags := flags
          width := width.natAbs
          isLeft := flags.contains '-' || decide (width < 0)
          precision := precision.bind fun n => if n < 0 then none else some n.toNat }
      match work.directive shape letter with
      | (work, .done) => work.format fuel rest
      | stopped => stopped
  | fuel + 1, c :: rest => (work.write [c]).format fuel rest

end Work

/-- What is written, and with which status writing it ends. -/
structure Written where
  text : Text
  status : Nat
  deriving DecidableEq

/-- How a format ends up. -/
def Work.finish (work : Work) (ending : Ending) : Written :=
  ⟨work.written.reverse, if ending = .bad then 2 else if work.hasFailed then 1 else 0⟩

/-- Writes a format until all arguments are used. The fuel is their number. -/
def groups (format : Text) (work : Work) : (fuel : Nat) → Written
  | 0 => (work.format format.length format).1.finish (work.format format.length format).2
  | fuel + 1 =>
    let (after, ending) := work.format format.length format
    let hasUsed := decide (after.arguments.length < work.arguments.length)
    if ending = .done ∧ hasUsed ∧ !after.arguments.isEmpty then groups format after fuel
    else after.finish ending

/-- What a format stands for with some arguments. -/
def run (format : Text) (arguments : List Text) : Written :=
  groups format ⟨arguments, [], false⟩ arguments.length

/-- A format without signs stands for itself. -/
theorem run_plain {format : Text} (h : ∀ c ∈ format, c ≠ '%' ∧ c ≠ '\\') :
    run format [] = ⟨format, 0⟩ := by
  have hformat : ∀ (text : Text) (work : Work) (fuel : Nat),
      (∀ c ∈ text, c ≠ '%' ∧ c ≠ '\\') → text.length ≤ fuel →
        work.format fuel text = (work.write text, .done) := by
    intro text
    induction text with
    | nil =>
      intro work fuel _ _
      cases fuel <;> rfl
    | cons c rest ih =>
      intro work fuel hplain hfuel
      cases fuel with
      | zero => simp at hfuel
      | succ fuel =>
        have hc := hplain c (List.mem_cons_self ..)
        have hrest := ih (work.write [c]) fuel
          (fun d hd => hplain d (List.mem_cons_of_mem _ hd)) (by simpa using hfuel)
        rw [Work.format.eq_def]
        split <;> simp_all [Work.write]
  unfold run groups
  simp [hformat format ⟨[], [], false⟩ format.length h (Nat.le_refl _), Work.finish, Work.write]

end GoAssist.Shell.Format
