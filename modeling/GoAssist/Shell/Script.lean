import GoAssist.Shell.Parser
import GoAssist.Shell.Stream

/-!
# Running scripts

A script is carried out line by line. One that stands in a file is read in blocks, so that what is
written to the file while it runs is met only behind the block that was read last. A shell that ends
carries out the command for its end, and a subshell leaves its parent as it was, except for what all
programs share.
-/

namespace GoAssist.Shell

/-- What carries out a command and gives its status. A failure of a command that is tested does not
end the shell. -/
abbrev Evaluator := (tested : Bool) → Command → Run Nat

/-- The signal of a shell's end. -/
def endSignal : Nat := 0

/-- The signals that nothing follows from unless a shell says so. -/
def idleSignals : List Nat := [17, 18, 23, 28]

/-- How many bytes of a script are read at once. -/
def blockSize : Nat := 8192

namespace Run

/-- Reads a line of a text, with the aliases and texts that the shell knows. -/
def nextLine (text : Text) : Run Line := do
  let line := readLine (← process).aliases (← world).nextDocument text
  match line with
  | .commands _ after =>
    modifyWorld fun world => { world with
      documents := after.documents ++ world.documents
      nextDocument := after.nextDocument }
  | _ => pure ()
  return line

/-- Carries out a text and gives the status of its last command. -/
def text (evaluate : Evaluator) (tested : Bool) (script : Text) : Run Nat :=
  let step (state : Text × Nat) : Run ((Text × Nat) ⊕ Nat) := do
    let (rest, status) := state
    match ← nextLine rest with
    | .finished => return .inr status
    | .fault => stop
    | .commands none after => return .inl (after.rest, status)
    | .commands (some command) after => return .inl (after.rest, ← evaluate tested command)
  iterate step maxRounds (script, 0)

/-- A script that is being read from a file. -/
structure Feed where
  /-- What was read and not yet carried out. -/
  buffer : Text
  /-- How much of the file was read. -/
  offset : Nat
  /-- Whether the end of the file was met. -/
  ended : Bool

/-- A text without the characters that no script holds. -/
def withoutNul (text : Text) : Text :=
  text.filter (· != '\x00')

/-- A feed that has read enough blocks of `more` to hold so many characters; the fuel bounds their
number. -/
def Feed.filled (size : Nat) : (fuel : Nat) → (more : Text) → Feed → Feed
  | 0, _, feed => feed
  | fuel + 1, more, feed =>
    if size ≤ feed.buffer.length ∨ more.isEmpty then feed
    else
      let block := more.take blockSize
      Feed.filled size fuel (more.drop blockSize)
        { feed with
          buffer := feed.buffer ++ withoutNul block
          offset := feed.offset + block.length }

/-- What is left of a feed after some of it was carried out, where `more` is what the file holds
behind the buffer. -/
def Feed.after (feed : Feed) (more : Text) (source : Source) : Feed :=
  if source.ended then ⟨source.rest, feed.offset + more.length, true⟩
  else
    let size := feed.buffer.length + (withoutNul more).length - source.rest.length
    let filled := Feed.filled size (more.length / blockSize + 1) more feed
    { filled with buffer := filled.buffer.drop size }

/-- The bytes of a file. -/
def contentAt (location : Location) : Run Text := do
  match (← world).files.node? location with
  | some (.file bytes _) => return Bytes.ofByteArray bytes
  | _ => return []

/-- Carries out the script in a file and gives the status of its last command. -/
def file (evaluate : Evaluator) (tested : Bool) (location : Location) : Run Nat :=
  let step (state : Feed × Nat) : Run ((Feed × Nat) ⊕ Nat) := do
    let (feed, status) := state
    let content ← contentAt location
    let more := if feed.ended then [] else content.drop feed.offset
    match ← nextLine (feed.buffer ++ withoutNul more) with
    | .finished => return .inr status
    | .fault => stop
    | .commands none source => return .inl (feed.after more source, status)
    | .commands (some command) source =>
      if (← process).hasFlag 'n' then return .inl (feed.after more source, status)
      else return .inl (feed.after more source, ← evaluate tested command)
  iterate step maxRounds (⟨[], 0, false⟩, 0)

/-- The status with which a jump ends a shell, before the command for its end; none if that command
is not carried out. -/
def ending (result : Except Jump Nat) : Run (Option Nat) := do
  match result with
  | .ok status => return some status
  | .error (.leave _ status) => return some status
  | .error .exit => return some (← process).status
  | .error .fault => return some (← process).status
  | .error _ => return none

/-- Ends a shell: carries out the command for its end, and gives its status. -/
def endShell (evaluate : Evaluator) (result : Except Jump Nat) : Run Nat := do
  match ← ending result with
  | some status =>
    setStatus status
    match (← process).traps.lookup endSignal with
    | none => return status
    | some command =>
      modifyProcess fun process => { process with
        traps := process.traps.filter fun trap => trap.1 != endSignal
        trapStatus := some status }
      match ← attempt (text evaluate false command) with
      | .ok _ => return status
      | .error (.leave _ _) => return status
      | .error (.killed signal) => return statusOfSignal signal
      | .error _ => return (← process).status
  | none =>
    match result with
    | .error (.killed signal) => return statusOfSignal signal
    | .error .exhausted => return statusOfSignal 11
    | _ => return (← process).status

/-- A number for a new program. -/
def freshProcess : Run Nat := do
  modifyWorld fun world => { world with lastProcess := world.lastProcess + 1 }
  return (← world).lastProcess

/-- How many statuses a program can end with; larger ones begin again. -/
def statusCount : Nat := 256

/-- Runs a computation in a subshell and gives the status with which that ends. -/
def asChild (evaluate : Evaluator) (action : Run Nat) : Run Nat := do
  let id ← freshProcess
  let before ← process
  modifyProcess fun process => { process with
    id := id
    parent := before.id
    traps := process.traps.filter fun trap => trap.2.isEmpty
    trapStatus := none
    jobs := [] }
  let result ← attempt action
  let status ← attempt (endShell evaluate result)
  modifyProcess fun _ => before
  resume (status.map (· % statusCount))

/-- Carries out what the signals ask for that were sent to the running program. -/
def deliver (evaluate : Evaluator) : Run Unit := do
  let id := (← process).id
  let sent := (← world).signals.filter fun signal => signal.1 == id
  if sent.isEmpty then return
  modifyWorld fun world => { world with
    signals := world.signals.filter fun signal => signal.1 != id }
  for (_, signal) in sent do
    match (← process).traps.lookup signal with
    | some command =>
      if !command.isEmpty then
        let before ← process
        modifyProcess fun process => { process with trapStatus := some before.status }
        let _ ← text evaluate false command
        modifyProcess fun process => { process with
          status := before.status, trapStatus := before.trapStatus }
    | none => if !idleSignals.contains signal then throw (.killed signal)

end Run

end GoAssist.Shell
