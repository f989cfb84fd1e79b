import CommandShell.Text.Basic

/-!
Where the loop of a session stands.
-/

set_option autoImplicit false

namespace CommandShell

inductive Phase
  /-- A prompt is shown and a line awaited. -/
  | idle
  | parsing
  /-- A builtin runs, or a program is started and waited for. -/
  | dispatching
  | terminated
  deriving DecidableEq

def Phase.name : Phase → Text
  | .idle => "Idle".toList
  | .parsing => "Parsing".toList
  | .dispatching => "Dispatching".toList
  | .terminated => "Terminated".toList

end CommandShell
