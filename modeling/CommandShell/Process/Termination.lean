import CommandShell.Text.Decimal

/-!
How a child process ended, and how a wait status says it.
-/

set_option autoImplicit false

namespace CommandShell

inductive Termination
  | exited (code : Int)
  | signaled (signal : Int)
  deriving DecidableEq

namespace Termination

def success (termination : Termination) : Bool := termination == .exited 0

def display : Termination → Text
  | .exited code => "exit status ".toList ++ Decimal.printInt code
  | .signaled signal => "signal ".toList ++ Decimal.printInt signal

/-- Reads a wait status. The low seven bits are the signal; where they are zero, bits 8 to 15 are
the exit code; all seven set stand for a process that was only stopped or continued. -/
def ofStatus (status : Int32) : Termination :=
  let bits := status.toUInt32.toNat
  let signal := bits % 128
  if signal = 0 then .exited (bits / 256 % 256 : Nat)
  else if signal = 127 then .exited (-1)
  else .signaled signal

/-- The wait status of a process that exits with a code. -/
def exitStatus (code : Nat) : Int32 := Int32.ofNat (code % 256 * 256)

/-- The wait status of a process ended by a signal. -/
def signalStatus (signal : Nat) : Int32 := Int32.ofNat (signal % 128)

end Termination

end CommandShell
