import CommandShell.Session.Dispatch

/-!
The loop of a session: one prompt, one line, until `exit`, the end of the input or a failure to
read.
-/

set_option autoImplicit false

namespace CommandShell

/-- What asking for a line yields. -/
inductive Reading
  | line (text : Text)
  | interrupted
  | endOfInput
  | failed (cause : InputError)
  deriving DecidableEq

/-- One reading, and what changes while it is awaited. -/
structure Item (ω σ : Type) where
  /-- The new world, where it changes. -/
  world : Option ω
  /-- What becomes of the sink. -/
  adjust : σ → σ
  reading : Reading

/-- A reading during which nothing changes. -/
def Item.plain {ω σ : Type} (reading : Reading) : Item ω σ := ⟨none, id, reading⟩

namespace Session

variable {ω σ : Type}

/-- Asks for a line, once all that was written is flushed. -/
def awaitLine (setting : Setting ω σ) : Act ω σ ShellError Unit := do
  Act.enter .idle
  (Act.flush setting.sink).mapError .io
  Act.happen (.prompt setting.prompt)

/-- Ends the session at the end of the input, on a new line. -/
def finish (setting : Setting ω σ) : Act ω σ ShellError Nat := do
  Act.note .endOfInput
  (Act.writeLine setting.sink []).mapError .io
  (Act.flush setting.sink).mapError .io
  Act.enter .terminated
  return 0

/-- Carries out one line, and tells of an error in a line of its own. An exit code ends the
session. -/
def obeyLine (setting : Setting ω σ) (line : Text) : Act ω σ ShellError (Option Nat) := do
  match ← (executeLine setting line).attempt with
  | .ok .goOn => return none
  | .ok (.exit code) =>
    (Act.flush setting.sink).mapError .io
    Act.enter .terminated
    return some code
  | .error error =>
    Act.note (.dispatchFailed error line)
    (Act.writeLine setting.sink ("Error: ".toList ++ error.message)).mapError .io
    return none

/-- Does what a reading asks for. -/
def obey (setting : Setting ω σ) : Reading → Act ω σ ShellError (Option Nat)
  | .line text => obeyLine setting text
  | .interrupted => return none
  | .endOfInput => do return some (← finish setting)
  | .failed cause => do
    Act.enter .terminated
    Act.fail (.input cause)

/-- One turn of the loop. -/
def turn (setting : Setting ω σ) (item : Item ω σ) : Act ω σ ShellError (Option Nat) := do
  awaitLine setting
  Act.arrange item.world item.adjust
  obey setting item.reading

/-- Runs a session over some readings, after which the input ends. Yields the exit code. -/
def run (setting : Setting ω σ) : List (Item ω σ) → Act ω σ ShellError Nat
  | [] => do
    awaitLine setting
    finish setting
  | item :: rest => do
    match ← turn setting item with
    | some code => return code
    | none => run setting rest

/-- A session that has not begun. -/
def start (world : ω) (sink : σ) : State ω σ := ⟨.idle, world, sink, 0⟩

end Session

end CommandShell
