import GoAssist.Shell.Number

/-!
# Signals

Signals by their numbers and names. Every name leads to the number that it is printed for
(`ofText?_name`).
-/

namespace GoAssist.Shell.Signal

/-- The names of the signals from zero on; the first one stands for a shell's end. The signals without
a use of their own are told from the two ends of their range. -/
def names : List String :=
  ["EXIT", "HUP", "INT", "QUIT", "ILL", "TRAP", "ABRT", "BUS", "FPE", "KILL", "USR1", "SEGV", "USR2",
   "PIPE", "ALRM", "TERM", "16", "CHLD", "CONT", "STOP", "TSTP", "TTIN", "TTOU", "URG", "XCPU",
   "XFSZ", "VTALRM", "PROF", "WINCH", "IO", "PWR", "SYS", "32", "33", "RTMIN"]
  ++ ((List.range 15).map fun n => "RTMIN+" ++ toString (n + 1))
  ++ ((List.range 14).map fun n => "RTMAX-" ++ toString (14 - n))
  ++ ["RTMAX"]

/-- How many signals there are. -/
def count : Nat := names.length

/-- The signal that ends a program in an orderly way. -/
def terminate : Nat := 15

/-- The signal that no program can pass over. -/
def kill : Nat := 9

/-- The name of a signal, or its number if it has none. -/
def name (signal : Nat) : String :=
  names.getD signal (toString signal)

/-- The signal that a text names by its number or name, from `least` on. -/
def ofText? (least : Nat) (text : Text) : Option Nat :=
  if !text.isEmpty && text.all Char.isDigit then
    let n := numberOf 10 text
    if n < count then some n else none
  else
    let found := names.findIdx? fun name => name.toList == text.map Char.toUpper
    found.bind fun n => if least ≤ n then some n else none

/-- Every name leads back to its number. -/
theorem ofText?_name : ∀ n ∈ List.range names.length, ofText? 0 (name n).toList = some n := by
  decide +kernel

end GoAssist.Shell.Signal
