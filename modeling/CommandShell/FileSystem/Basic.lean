import CommandShell.Path
import CommandShell.Text.Split

/-!
A tree of files kept in memory, as the list of its places and what is there.
-/

set_option autoImplicit false

namespace CommandShell

/-- The names that lead from the root to a place. -/
abbrev Location := List Bytes

/-- Which of a file's users may read, write and execute it, as bits. -/
abbrev Mode := Nat

inductive Node
  | directory (mode : Mode)
  | file (mode : Mode) (content : Bytes)
  | link (target : Path)
  /-- A pipe or a device. -/
  | special (mode : Mode)
  deriving DecidableEq

namespace Node

def isDirectory : Node → Bool
  | .directory _ => true
  | _ => false

/-- The same node with other permissions; a link has none of its own. -/
def withMode (mode : Mode) : Node → Node
  | .directory _ => .directory mode
  | .file _ content => .file mode content
  | .special _ => .special mode
  | .link target => .link target

end Node

/-- Any of the three bits that allow a file to be executed. -/
def Mode.executable (mode : Mode) : Bool := mode &&& 0o111 != 0

structure FileSystem where
  entries : List (Location × Node)

namespace FileSystem

/-- What is at a place; the root is always a directory. -/
def node? (files : FileSystem) (place : Location) : Option Node :=
  if place.isEmpty then some (.directory 0o755)
  else (files.entries.find? (·.1 = place)).map (·.2)

def isDirectory (files : FileSystem) (place : Location) : Bool :=
  (files.node? place).any Node.isDirectory

/-- The names in a directory. -/
def children (files : FileSystem) (place : Location) : List Bytes :=
  files.entries.filterMap fun (other, _) =>
    if other.dropLast = place then other.getLast? else none

/-- Everything but what is at a place. -/
def without (files : FileSystem) (place : Location) : FileSystem :=
  ⟨files.entries.filter (·.1 ≠ place)⟩

def put (files : FileSystem) (place : Location) (node : Node) : FileSystem :=
  ⟨(files.without place).entries ++ [(place, node)]⟩

/-- Everything but a place and what is below it. -/
def withoutTree (files : FileSystem) (place : Location) : FileSystem :=
  ⟨files.entries.filter fun (other, _) => !place.isPrefixOf other⟩

/-- Moves a place, and what is below it, to another. -/
def move (files : FileSystem) (place target : Location) : FileSystem :=
  ⟨(files.withoutTree target).entries.map fun (other, node) =>
    if place.isPrefixOf other then (target ++ other.drop place.length, node) else (other, node)⟩

end FileSystem

end CommandShell
