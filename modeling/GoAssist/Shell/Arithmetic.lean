import GoAssist.Shell.Number

/-!
# Arithmetic of words

An expression is worked out on numbers of 64 bits, which wrap around. A parameter stands for the
number that its value spells, and an assignment is carried out only where the value of the expression
hangs on it. Dividing by zero has no value.
-/

namespace GoAssist.Shell.Arithmetic

/-- The smallest parts of an expression. -/
inductive Token where
  | number (value : Int64)
  | name (text : Text)
  | sign (text : String)
  /-- A character that has no meaning. -/
  | other
  deriving DecidableEq

/-- The signs of operations, those first that begin with others. -/
def signs : List String :=
  ["<<=", ">>=", "<<", ">>", "<=", ">=", "==", "!=", "&&", "||", "+=", "-=", "*=", "/=", "%=", "&=",
   "^=", "|=", "<", ">", "=", "+", "-", "*", "/", "%", "&", "^", "|", "!", "~", "(", ")", "?", ":"]

/-- The tokens of an expression. -/
def tokens : (fuel : Nat) → Text → List Token
  | 0, _ => []
  | _, [] => []
  | fuel + 1, c :: rest =>
    if c == ' ' || c == '\t' || c == '\n' then tokens fuel rest
    else
      match Number.unsigned? true (c :: rest) with
      | some (n, after) => .number (Number.nearest n) :: tokens fuel after
      | none =>
        if isNameStart c then
          let name := (c :: rest).takeWhile isNameChar
          .name name :: tokens fuel ((c :: rest).drop name.length)
        else
          match signs.find? fun sign => sign.toList.isPrefixOf (c :: rest) with
          | some sign => .sign sign :: tokens fuel ((c :: rest).drop sign.length)
          | none => .other :: tokens fuel rest

/-- A truth value as a number. -/
def ofBool (holds : Bool) : Int64 :=
  if holds then 1 else 0

/-- How strongly a sign binds its two sides; only some signs stand between two sides. -/
def strength? (sign : String) : Option Nat :=
  match sign with
  | "*" => some 8
  | "/" => some 8
  | "%" => some 8
  | "+" => some 7
  | "-" => some 7
  | "<<" => some 6
  | ">>" => some 6
  | "<" => some 5
  | "<=" => some 5
  | ">" => some 5
  | ">=" => some 5
  | "==" => some 4
  | "!=" => some 4
  | "&" => some 3
  | "^" => some 2
  | "|" => some 1
  | _ => none

/-- The value of an operation, if it has one. -/
def operation? (sign : String) (a b : Int64) : Option Int64 :=
  match sign with
  | "*" => some (a * b)
  | "/" => if b = 0 then none else some (a / b)
  | "%" => if b = 0 then none else some (a % b)
  | "+" => some (a + b)
  | "-" => some (a - b)
  | "<<" => some (a <<< b)
  | ">>" => some (a >>> b)
  | "<" => some (ofBool (decide (a < b)))
  | "<=" => some (ofBool (decide (a ≤ b)))
  | ">" => some (ofBool (decide (b < a)))
  | ">=" => some (ofBool (decide (b ≤ a)))
  | "==" => some (ofBool (a == b))
  | "!=" => some (ofBool (a != b))
  | "&" => some (a &&& b)
  | "^" => some (a ^^^ b)
  | "|" => some (a ||| b)
  | _ => none

/-- An expression that is being worked out. -/
structure Work where
  /-- What is left of the expression. -/
  rest : List Token
  /-- The numbers that were assigned, the last one first. -/
  assigned : List (Text × Int64)

/-- Works on an expression, unless it has no value. -/
abbrev Eval := StateT Work Option

namespace Eval

/-- An expression that has no value. -/
def fail {α : Type} : Eval α := fun _ => none

/-- Passes a sign if it comes next. -/
def accept (sign : String) : Eval Bool := do
  let work ← get
  match work.rest with
  | token :: rest =>
    if token = .sign sign then
      set { work with rest := rest }
      return true
    else return false
  | [] => return false

/-- The value of a parameter. -/
def value (lookup : Text → Option Int64) (name : Text) : Eval Int64 := do
  match (← get).assigned.lookup name with
  | some n => return n
  | none => (lookup name : Option Int64)

/-- The value of an operation where it counts. -/
def operate (counts : Bool) (sign : String) (a b : Int64) : Eval Int64 :=
  if counts then (operation? sign a b : Option Int64) else pure b

/-- The sign of an assignment at the beginning of what is left: the operation it makes, if any. -/
def assignment? : List Token → Option (Text × Option String × List Token)
  | .name name :: .sign "=" :: rest => some (name, none, rest)
  | .name name :: .sign sign :: rest =>
    let body := sign.toList.dropLast
    if sign.length ≥ 2 ∧ sign.toList.getLast? = some '=' ∧ (strength? (String.ofList body)).isSome
        ∧ sign ≠ "<=" ∧ sign ≠ ">=" then
      some (name, some (String.ofList body), rest)
    else none
  | _ => none

mutual

/-- Works out an expression, which may be an assignment. What does not count leaves no trace. -/
def expression (lookup : Text → Option Int64) (counts : Bool) : (fuel : Nat) → Eval Int64
  | 0 => fail
  | fuel + 1 => do
    let work ← get
    match assignment? work.rest with
    | some (name, operation, rest) =>
      set { work with rest := rest }
      let right ← expression lookup counts fuel
      if counts then
        let result ← match operation with
          | none => pure right
          | some sign => operate true sign (← value lookup name) right
        modify fun work => { work with assigned := (name, result) :: work.assigned }
        return result
      else return right
    | none => conditional lookup counts fuel

/-- Works out a choice between two expressions. -/
def conditional (lookup : Text → Option Int64) (counts : Bool) : (fuel : Nat) → Eval Int64
  | 0 => fail
  | fuel + 1 => do
    let test ← disjunction lookup counts fuel
    if ← accept "?" then
      let yes ← expression lookup (counts && test != 0) fuel
      if !(← accept ":") then fail
      let no ← conditional lookup (counts && test == 0) fuel
      return if test != 0 then yes else no
    else return test

/-- Works out alternatives. -/
def disjunction (lookup : Text → Option Int64) (counts : Bool) : (fuel : Nat) → Eval Int64
  | 0 => fail
  | fuel + 1 => do
    let first ← conjunction lookup counts fuel
    if ← accept "||" then
      let second ← disjunction lookup (counts && first == 0) fuel
      return ofBool (first != 0 || second != 0)
    else return first

/-- Works out joint conditions. -/
def conjunction (lookup : Text → Option Int64) (counts : Bool) : (fuel : Nat) → Eval Int64
  | 0 => fail
  | fuel + 1 => do
    let first ← operand lookup counts fuel
    let first ← operations lookup counts first 1 fuel
    if ← accept "&&" then
      let second ← conjunction lookup (counts && first != 0) fuel
      return ofBool (first != 0 && second != 0)
    else return first

/-- Works out the operations that follow a value and bind at least as strongly as `least`. -/
def operations (lookup : Text → Option Int64) (counts : Bool) (first : Int64) (least : Nat) :
    (fuel : Nat) → Eval Int64
  | 0 => fail
  | fuel + 1 => do
    let work ← get
    match work.rest with
    | .sign sign :: rest =>
      match strength? sign with
      | some strength =>
        if least ≤ strength then
          set { work with rest := rest }
          let second ← operand lookup counts fuel
          let second ← operations lookup counts second (strength + 1) fuel
          let result ← operate counts sign first second
          operations lookup counts result least fuel
        else return first
      | none => return first
    | _ => return first

/-- Works out a value with the signs before it. -/
def operand (lookup : Text → Option Int64) (counts : Bool) : (fuel : Nat) → Eval Int64
  | 0 => fail
  | fuel + 1 => do
    let work ← get
    match work.rest with
    | token :: rest =>
      set { work with rest := rest }
      match token with
      | .number n => return n
      | .name name => if counts then value lookup name else return 0
      | .sign "(" =>
        let inner ← expression lookup counts fuel
        if !(← accept ")") then fail
        return inner
      | .sign "+" => operand lookup counts fuel
      | .sign "-" => return -(← operand lookup counts fuel)
      | .sign "!" => return ofBool ((← operand lookup counts fuel) == 0)
      | .sign "~" => return ~~~(← operand lookup counts fuel)
      | _ => fail
    | [] => fail

end

end Eval

/-- The value of an expression, and the numbers that are assigned in it, the first one first. -/
def evaluate (lookup : Text → Option Int64) (text : Text) :
    Option (Int64 × List (Text × Int64)) := do
  let parts := tokens text.length text
  let (result, work) ← (Eval.expression lookup true (parts.length * 8 + 8)).run ⟨parts, []⟩
  if work.rest.isEmpty then some (result, work.assigned.reverse) else none

end GoAssist.Shell.Arithmetic
