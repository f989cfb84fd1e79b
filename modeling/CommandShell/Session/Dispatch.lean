import CommandShell.Command
import CommandShell.Session.Act

/-!
Carrying out one line.
-/

set_option autoImplicit false

namespace CommandShell

/-- What follows a line that was carried out. -/
inductive Outcome
  | goOn
  | exit (code : Nat)
  deriving DecidableEq

namespace Session

variable {ω σ ε : Type}

/-- Prints the arguments with single spaces between them. -/
def echo (setting : Setting ω σ) (arguments : List Text) : Act ω σ CommandError Outcome := do
  (Act.writeLine setting.sink ([' '].intercalate arguments)).mapError .io
  return .goOn

/-- The one line that tells what a name stands for. -/
def described (name : Text) : Resolution → Text
  | .builtin _ => name ++ " is a shell builtin".toList
  | .executable path => name ++ " is ".toList ++ path.display
  | .notFound => name ++ ": not found".toList

/-- What a name stands for. A search of the files is noted. -/
def classify (setting : Setting ω σ) (name : Text) : Act ω σ ε Resolution := do
  let resolution := setting.source.resolve (← Act.look setting.host) name
  match resolution with
  | .builtin _ => pure ()
  | .executable path => Act.note (.lookedUp name (some path))
  | .notFound => Act.note (.lookedUp name none)
  return resolution

/-- Tells what its first argument stands for. -/
def type (setting : Setting ω σ) : List Text → Act ω σ CommandError Outcome
  | [] => Act.fail (.missingArgument Builtin.type.name)
  | name :: _ => do
    let resolution ← classify setting name
    (Act.writeLine setting.sink (described name resolution)).mapError .io
    return .goOn

/-- Ends the session with success, whatever its arguments say. -/
def exit (arguments : List Text) : Act ω σ CommandError Outcome := do
  if !arguments.isEmpty then Act.note (.exitArgumentsIgnored arguments)
  return .exit 0

def runBuiltin (setting : Setting ω σ) (arguments : List Text) :
    Builtin → Act ω σ CommandError Outcome
  | .echo => echo setting arguments
  | .type => type setting arguments
  | .exit => exit arguments

/-- Runs a builtin; a missing argument is told in a line of its own. -/
def dispatchBuiltin (setting : Setting ω σ) (builtin : Builtin) (arguments : List Text) :
    Act ω σ ShellError Outcome := do
  match ← (runBuiltin setting arguments builtin).attempt with
  | .ok outcome => return outcome
  | .error (.missingArgument name) =>
    (Act.writeLine setting.sink (CommandError.missingArgument name).message).mapError .io
    return .goOn
  | .error error => Act.fail (.command error)

def reportNotFound (setting : Setting ω σ) (name : Text) : Act ω σ ShellError Unit :=
  (Act.writeLine setting.sink (name ++ ": command not found".toList)).mapError .io

/-- What is noted of a program's end. -/
def endNote (name : Text) : Except ProcessError Termination → Note
  | .ok termination =>
    if termination.success then .finished name else .finishedUnsuccessfully name termination
  | .error error => .lostTrack name error

/-- How far a line has come: it is carried out, or a program started for it is still running. -/
inductive Begun
  | done (outcome : Outcome)
  | waiting (name : Text) (process : RunningProcess)

/-- Starts a program. The sink is flushed first, so that what was written comes before what the
program writes. A program that is refused counts as not found. -/
def startExternal (setting : Setting ω σ) (program : Path) (command : Command) :
    Act ω σ ShellError Begun := do
  (Act.flush setting.sink).mapError .io
  match ← (Act.launch setting.host ⟨program, command.word, command.arguments⟩).attempt with
  | .error error =>
    Act.note (.launchFailed command.word error)
    reportNotFound setting command.word
    return .done .goOn
  | .ok process =>
    if let some id := process.id then Act.note (.started id program)
    return .waiting command.word process

/-- Carries out a command as far as that goes without waiting. A name that starts at the root is
started as it is. -/
def dispatch (setting : Setting ω σ) (command : Command) : Act ω σ ShellError Begun := do
  let resolution ← classify setting command.word
  Act.note (.dispatching command.word resolution)
  match resolution with
  | .builtin builtin => return .done (← dispatchBuiltin setting builtin command.arguments)
  | .executable path => startExternal setting path command
  | .notFound =>
    if command.word.head? = some '/' then
      startExternal setting (Utf8.encode command.word) command
    else
      reportNotFound setting command.word
      return .done .goOn

/-- Carries out a line as far as that goes without waiting. A blank line asks for nothing. -/
def beginLine (setting : Setting ω σ) (line : Text) : Act ω σ ShellError Begun := do
  Act.enter .parsing
  let command := Command.parse line
  if command.isBlank then return .done .goOn
  Act.enter .dispatching
  dispatch setting command

/-- Waits for the program a line has started. How it ends makes no difference. -/
def complete : Begun → Act ω σ ε Outcome
  | .done outcome => return outcome
  | .waiting name process => do
    Act.happen (.ended name)
    Act.note (endNote name process.report.wait)
    return .goOn

/-- Carries out one line. -/
def executeLine (setting : Setting ω σ) (line : Text) : Act ω σ ShellError Outcome := do
  complete (← beginLine setting line)

end Session

end CommandShell
