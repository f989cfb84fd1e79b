import CommandShell.Path
import CommandShell.Process.Termination

/-!
What can go wrong in a session, and how it is told.
-/

set_option autoImplicit false

namespace CommandShell

/-- No line could be read. -/
inductive InputError
  | readline (reason : Text)
  | closed
  | io (reason : Text)
  deriving DecidableEq

/-- A builtin could not do its work. -/
inductive CommandError
  | missingArgument (name : Text)
  | io (reason : Text)
  deriving DecidableEq

/-- A started process was lost sight of, or signals cannot be handled. -/
inductive ProcessError
  | wait (reason : Text)
  | abandoned
  | signal (reason : Text)
  deriving DecidableEq

/-- A program was refused. -/
inductive LaunchError
  | notFound (name : Text)
  | spawn (program : Text) (reason : Text)
  deriving DecidableEq

inductive ShellError
  | input (cause : InputError)
  | io (reason : Text)
  | command (cause : CommandError)
  | process (cause : ProcessError)
  deriving DecidableEq

def ioMessage (reason : Text) : Text := "IO error: ".toList ++ reason

def InputError.message : InputError → Text
  | .readline reason => "Readline error: ".toList ++ reason
  | .closed => "line reader stopped".toList
  | .io reason => ioMessage reason

def CommandError.message : CommandError → Text
  | .missingArgument name => name ++ ": missing argument".toList
  | .io reason => "failed to write output: ".toList ++ reason

def ProcessError.message : ProcessError → Text
  | .wait reason => "failed to wait for process: ".toList ++ reason
  | .abandoned => "process completion was never reported".toList
  | .signal reason => "signal handler error: ".toList ++ reason

def LaunchError.message : LaunchError → Text
  | .notFound name => "no such program: ".toList ++ name
  | .spawn program reason => "failed to spawn ".toList ++ program ++ ": ".toList ++ reason

def ShellError.message : ShellError → Text
  | .input cause => cause.message
  | .io reason => ioMessage reason
  | .command cause => cause.message
  | .process cause => cause.message

/-- Why the line editor gave no line. -/
inductive EditorError
  | endOfInput
  | interrupted
  | io (reason : Text)
  deriving DecidableEq

def EditorError.message : EditorError → Text
  | .endOfInput => "EOF".toList
  | .interrupted => "Interrupted".toList
  | .io reason => reason

/-- Every failure of the line editor is a failure to read. -/
def InputError.ofEditor (error : EditorError) : InputError := .readline error.message

/-- Interrupts have a handler already. -/
def ProcessError.handlerTaken : ProcessError :=
  .signal "Ctrl-C error: Ctrl-C signal handler already registered".toList

end CommandShell
