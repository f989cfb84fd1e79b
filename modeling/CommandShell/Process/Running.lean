import CommandShell.Error

/-!
A started process and the report of its end.
-/

set_option autoImplicit false

namespace CommandShell

/-- What becomes of the report on a process: it is given once, or its giver goes away. -/
inductive Report
  | reported (outcome : Except ProcessError Termination)
  | dropped

/-- What waiting for the report yields, be it given before or after the wait begins. -/
def Report.wait : Report → Except ProcessError Termination
  | .reported outcome => outcome
  | .dropped => .error .abandoned

structure RunningProcess where
  /-- The process number, where it is known. -/
  id : Option Nat
  report : Report

/-- A program to start: its file, the name it is called by, and its arguments. -/
structure LaunchRequest where
  program : Path
  name : Text
  arguments : List Text
  deriving DecidableEq

/-- What a program has written when it is over. -/
structure Written where
  output : Bytes
  errors : Bytes
  deriving DecidableEq

def Written.nothing : Written := ⟨[], []⟩

/-- What becomes of each attempt to start a program, given how many attempts went before. -/
abbrev Launcher := Nat → LaunchRequest → Except LaunchError RunningProcess

end CommandShell
