import CommandShell.Input
import CommandShell.Machine.Exec

/-!
A session on a machine: its lines come from an input, its programs are the machine's, and what they
and the session write is put together.
-/

set_option autoImplicit false

namespace CommandShell

/-- What appears on the error stream: a log record, or bytes a program has written. -/
inductive Diagnostic
  | record (record : Record)
  | raw (bytes : Bytes)

namespace Terminal

/-- The terminals on which the line reader shows its prompt although nobody types. -/
def plainTerminals : List Text := ["dumb", "cons25", "emacs"].map String.toList

/-- Whether prompts are shown. -/
def showsPrompts (machine : Machine) : Bool :=
  (machine.get "TERM").any fun term => plainTerminals.contains ((Utf8.lossy term).map Char.toLower)

/-- What an event puts on the output stream. -/
def outputOf (machine : Machine) : Event → Bytes
  | .wrote taken => taken
  | .prompt text => if showsPrompts machine then Utf8.encode text else []
  | .performed written => written.output
  | _ => []

/-- What an event puts on the error stream. -/
def diagnosticsOf : Event → List Diagnostic
  | .performed written => [.raw written.errors]
  | .noted note => [.record note.record]
  | _ => []

def output (machine : Machine) (trace : Trace) : Bytes :=
  trace.flatMap fun moment => outputOf machine moment.event

def diagnostics (trace : Trace) : List Diagnostic :=
  trace.flatMap fun moment => diagnosticsOf moment.event

/-- A session on a machine, whose output always finds room. -/
def setting (source : PathSource) (prompt : Text) : Setting Machine Unit :=
  ⟨source, Machine.host, .unlimited, prompt⟩

/-- Runs a session on an input. -/
def run (machine : Machine) (source : PathSource) (prompt : Text) (input : Bytes) :
    Ran Machine Unit ShellError Nat :=
  Session.runInput (setting source prompt) input (Session.start machine ())

end Terminal

end CommandShell
