import CommandShell.FileSystem.Basic
import CommandShell.Files

/-!
Following paths through a file system.
-/

set_option autoImplicit false

namespace CommandShell

/-- A node as a path that leads to it shows it. -/
def Node.kind : Node → FileKind
  | .directory _ => .directory
  | .file mode _ => .regular mode.executable
  | .special _ | .link _ => .other

namespace FileSystem

/-- Why a path leads nowhere. -/
inductive WalkFault
  | noEntry
  | notDirectory
  | tooManyLinks
  | nameTooLong
  deriving DecidableEq

/-- The name that stands for the directory itself. -/
def here : Bytes := [0x2E]

/-- The name that stands for the directory above. -/
def above : Bytes := [0x2E, 0x2E]

/-- How many links are followed on one path. -/
def linkLimit : Nat := 40

/-- The greatest length of a name. -/
def nameLimit : Nat := 255

/-- One past the greatest length of a path. -/
def pathLimit : Nat := 4096

/-- The names of a path in order. A slash at its end asks for a directory, as a final `.` does. -/
def names (path : Path) : List Bytes :=
  pieces (· == Path.slash) path ++ (if path.getLast? = some Path.slash then [here] else [])

/-- What to do at the last name of a path. -/
structure Ending where
  /-- Follow a link there. -/
  follow : Bool
  /-- Be content with a place where nothing is yet. -/
  mayBeMissing : Bool

/-- Follows names from a place on. `budget` counts the links that may still be followed. -/
def walk (files : FileSystem) (ending : Ending) (budget : Nat) (place : Location) :
    List Bytes → Except WalkFault Location
  | [] => .ok place
  | name :: rest =>
    if !files.isDirectory place then .error .notDirectory
    else if name = here then walk files ending budget place rest
    else if name = above then walk files ending budget place.dropLast rest
    else if name.length > nameLimit then .error .nameTooLong
    else
      match files.node? (place ++ [name]) with
      | none =>
        if rest.isEmpty && ending.mayBeMissing then .ok (place ++ [name]) else .error .noEntry
      | some (.link target) =>
        if rest.isEmpty && !ending.follow then .ok (place ++ [name])
        else
          match budget with
          | 0 => .error .tooManyLinks
          | budget + 1 =>
            walk files ending budget (if target.isAbsolute then [] else place)
              (names target ++ rest)
      | some _ => walk files ending budget (place ++ [name]) rest
  termination_by names => (budget, names.length)

/-- The place a path leads to, relative to a working directory. -/
def locate (files : FileSystem) (ending : Ending) (working : Location) (path : Path) :
    Except WalkFault Location :=
  if path.isEmpty || path.contains 0 then .error .noEntry
  else if path.length ≥ pathLimit then .error .nameTooLong
  else walk files ending linkLimit (if path.isAbsolute then [] else working) (names path)

/-- The node a path leads to, links followed. -/
def reach (files : FileSystem) (working : Location) (path : Path) :
    Except WalkFault (Location × Node) := do
  let place ← files.locate ⟨true, false⟩ working path
  match files.node? place with
  | some node => return (place, node)
  | none => throw .noEntry

/-- What can be seen of a file system from a working directory. -/
def view (files : FileSystem) (working : Location) : Files where
  kind path :=
    match files.reach working path with
    | .ok (_, node) => some node.kind
    | .error _ => none
  list path :=
    match files.reach working path with
    | .ok (place, .directory _) => some (files.children place)
    | _ => none

end FileSystem

end CommandShell
