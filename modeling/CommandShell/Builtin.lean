import CommandShell.NameSet

/-!
The commands the shell carries out itself.
-/

set_option autoImplicit false

namespace CommandShell

inductive Builtin
  | echo
  | type
  | exit
  deriving DecidableEq

namespace Builtin

def all : List Builtin := [.echo, .type, .exit]

def name : Builtin → Text
  | .echo => "echo".toList
  | .type => "type".toList
  | .exit => "exit".toList

def find? (wanted : Text) : Option Builtin := all.find? (·.name = wanted)

/-- The names in the order of their bytes. -/
def names : List Text := NameSet.ofList (all.map name)

theorem find?_name (builtin : Builtin) : find? builtin.name = some builtin := by
  cases builtin <;> decide

end Builtin

end CommandShell
