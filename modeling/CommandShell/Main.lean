import CommandShell.Program

/-!
The shell on a machine of its own: a fresh file system in memory, the environment and the standard
streams of the process.
-/

set_option autoImplicit false

namespace CommandShell

/-- The variables the shell looks at. -/
def inheritedNames : List String := ["PATH", "HOME", "TERM", "MARROW_HISTORY_SIZE", "MARROW_LOG", "NO_COLOR",
    "CLICOLOR_FORCE"]

def Diagnostic.written : Diagnostic → Bytes
  | .record shown => Utf8.encode (shown.display ++ ['\n'])
  | .raw bytes => bytes

/-- All that can still be read. -/
partial def readAll (stream : IO.FS.Stream) (sofar : ByteArray) : IO ByteArray := do
  let chunk ← stream.read 65536
  if chunk.isEmpty then return sofar else readAll stream (sofar ++ chunk)

def writeAll (stream : IO.FS.Stream) (bytes : Bytes) : IO Unit := do
  stream.write (ByteArray.mk bytes.toArray)
  stream.flush

/-- The machine, with what the process has in its environment. -/
def inheritedMachine : IO Machine := do
  let mut machine := Machine.workingIn (Utf8.encode "/tmp".toList)
  for name in inheritedNames do
    let value ← IO.getEnv name
    machine := machine.set name (value.map fun value => Utf8.encode value.toList)
  return machine

end CommandShell

open CommandShell in
def main (arguments : List String) : IO UInt32 := do
  let input ← readAll (← IO.getStdin) ByteArray.empty
  let finished :=
    Program.run (← inheritedMachine) (arguments.map fun argument => Utf8.encode argument.toList)
      input.toList
  writeAll (← IO.getStdout) finished.output
  writeAll (← IO.getStderr) (finished.diagnostics.flatMap Diagnostic.written)
  return finished.code.toUInt32
