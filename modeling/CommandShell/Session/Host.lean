import CommandShell.Process.Running
import CommandShell.Resolver

/-!
What a session runs on: a world of files and programs, which the programs change.
-/

set_option autoImplicit false

namespace CommandShell

/-- What an attempt to start a program comes to. A program that is started has done its work when
the session goes on, so all of it is here. -/
structure Launched (ω : Type) where
  outcome : Except LaunchError RunningProcess
  written : Written
  /-- The world that the program leaves. -/
  world : ω

/-- A host whose worlds are in `ω`. -/
structure Host (ω : Type) where
  /-- What lookups see of a world. -/
  look : ω → Surroundings
  /-- Attempts to start a program, after some other attempts. -/
  launch : Nat → ω → LaunchRequest → Launched ω

/-- A host whose programs write nothing and change nothing. -/
def Host.still (launcher : Launcher) : Host Surroundings where
  look := id
  launch attempts around request := ⟨launcher attempts request, .nothing, around⟩

end CommandShell
