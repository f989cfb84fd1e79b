import CommandShell.Text.Basic

/-!
The settings of a session.
-/

set_option autoImplicit false

namespace CommandShell

def defaultHistorySize : Nat := 1000

structure Config where
  prompt : Text
  historySize : Nat
  completion : Bool
  deriving DecidableEq

def Config.default : Config := ⟨"$ ".toList, defaultHistorySize, true⟩

end CommandShell
