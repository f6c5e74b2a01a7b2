import GoAssist.Shell.Expansion

/-!
# Redirections

The targets of all redirections are expanded before the first one is carried out, but texts in place of
files only when it is their turn. A target that cannot be opened makes the command fail, and those
before it have been opened by then.
-/

namespace GoAssist.Shell

/-- What a redirection leads to after its expansion. -/
inductive Destination where
  | path (opening : Opening) (path : Text)
  /-- What another descriptor leads to. -/
  | copy (descriptor : Nat)
  | closed
  /-- A text that is still to be expanded. -/
  | document (body : List Part)

/-- The descriptor that a path stands for, if it stands for one. -/
def descriptorPath? (path : Text) : Option Nat :=
  match String.ofList path with
  | "/dev/stdin" => some 0
  | "/dev/stdout" => some 1
  | "/dev/stderr" => some 2
  | text =>
    let digits := path.drop "/dev/fd/".length
    if text.startsWith "/dev/fd/" && !digits.isEmpty && digits.all Char.isDigit then
      some (numberOf 10 digits)
    else none

namespace Run

/-- Expands the target of a redirection. -/
def destination (evaluate : Evaluator) : Target → Run Destination
  | .file opening name => return .path opening (← expandText evaluate false name)
  | .descriptor source => do
    match ← expandText evaluate false source with
    | ['-'] => return .closed
    | [digit] => if digit.isDigit then return .copy (numberOf 10 [digit]) else stop
    | _ => stop
  | .document number => return .document (((← world).documents.lookup number).getD [])

/-- Makes a descriptor lead where another one leads; false if that one leads nowhere. -/
def copyDescriptor (descriptor source : Nat) : Run Bool := do
  match (← process).descriptors.lookup source with
  | some number =>
    setDescriptor descriptor (some number)
    return true
  | none => return false

/-- Makes a descriptor lead to a text; false if the text cannot be expanded. -/
def leadToText (evaluate : Evaluator) (descriptor : Nat) (body : List Part) : Run Bool := do
  match ← attempt (expandParts evaluate false body) with
  | .ok parts =>
    let content := textOf parts.flatten
    setDescriptor descriptor (some (← addOpenFile ⟨.pipe content, 0, true, false, false⟩))
    return true
  | .error .fault => return false
  | .error jump => throw jump

/-- Carries out a redirection; false if that cannot be done. -/
def lead (evaluate : Evaluator) (descriptor : Nat) : Destination → Run Bool
  | .closed => do
    setDescriptor descriptor none
    return true
  | .copy source => copyDescriptor descriptor source
  | .document body => leadToText evaluate descriptor body
  | .path opening path => do
    match descriptorPath? path with
    | some source => copyDescriptor descriptor source
    | none =>
      match ← openPath opening ((← process).hasFlag 'C') path with
      | .ok number =>
        setDescriptor descriptor (some number)
        return true
      | .error _ => return false

/-- Carries out redirections up to the first that cannot be; whether all could. -/
def leadAll (evaluate : Evaluator) : List (Nat × Destination) → Run Bool
  | [] => return true
  | (descriptor, destination) :: rest => do
    if ← lead evaluate descriptor destination then leadAll evaluate rest else return false

/-- Carries out redirections; false if one cannot be. -/
def redirect (evaluate : Evaluator) (redirections : List (Nat × Target)) : Run Bool := do
  let destinations ← redirections.mapM fun (descriptor, target) => do
    return (descriptor, ← destination evaluate target)
  leadAll evaluate destinations

end Run

end GoAssist.Shell
