import CommandShell.Path

/-!
What a shell can learn about the files around it: what a path leads to, and what a directory lists.
-/

set_option autoImplicit false

namespace CommandShell

/-- What a path leads to, links followed. -/
inductive FileKind
  | regular (executable : Bool)
  | directory
  | other
  deriving DecidableEq

structure Files where
  kind : Path → Option FileKind
  /-- The names in a directory, itself and its parent left out; nothing when it cannot be read. -/
  list : Path → Option (List Bytes)

/-- A regular file that may be executed. -/
def Files.isExecutable (files : Files) (path : Path) : Bool :=
  files.kind path == some (.regular true)

/-- No files at all. -/
def Files.none : Files := ⟨fun _ => .none, fun _ => .none⟩

end CommandShell
