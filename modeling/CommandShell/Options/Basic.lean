import CommandShell.Config
import CommandShell.Log.Level

/-!
What the command line of the shell says.
-/

set_option autoImplicit false

namespace CommandShell

structure Options where
  quiet : Bool
  debug : Bool
  historySize : Nat
  noCompletion : Bool
  deriving DecidableEq

namespace Options

def default : Options := ⟨false, false, defaultHistorySize, false⟩

/-- The level that is logged when the environment names none. -/
def logLevel (options : Options) : Level :=
  if options.debug then .debug else if options.quiet then .error else .warn

/-- The settings of the session the options ask for. -/
def config (options : Options) : Config :=
  { Config.default with historySize := options.historySize, completion := !options.noCompletion }

end Options

end CommandShell
