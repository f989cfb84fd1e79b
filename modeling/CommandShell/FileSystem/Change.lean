import CommandShell.FileSystem.Walk

/-!
Changing a file system. A change that cannot be made leaves it as it is.
-/

set_option autoImplicit false

namespace CommandShell.FileSystem

inductive Change
  /-- Writes a file, with the directories above it, and sets its permissions. -/
  | write (path : Path) (mode : Mode) (content : Bytes)
  | makeDirectory (path : Path) (mode : Mode)
  /-- Makes a link; its target is kept as it is given. -/
  | makeLink (path target : Path)
  | makePipe (path : Path)
  | setMode (path : Path) (mode : Mode)
  /-- Removes a file, or a directory with all that is below it. -/
  | remove (path : Path)
  | rename (path target : Path)

/-- The permissions of what is made on the way. -/
def defaultMode : Mode := 0o755

/-- A path without the slashes at its end. -/
def trimEnd (path : Path) : Path := (path.reverse.dropWhile (· == Path.slash)).reverse

/-- The path of the directory that a path is in. -/
def parent (path : Path) : Path :=
  trimEnd ((trimEnd path).reverse.dropWhile (· != Path.slash)).reverse

/-- The paths of the directories above a path, the nearest first. -/
def parents (path : Path) : List Path :=
  let above := parent path
  if _shorter : above.length < path.length then above :: parents above else []
termination_by path.length

/-- Makes a directory where nothing is. -/
def makeOne (working : Location) (files : FileSystem) (path : Path) : FileSystem :=
  match files.locate ⟨true, true⟩ working (trimEnd path) with
  | .ok place =>
    if (files.node? place).isNone then files.put place (.directory defaultMode) else files
  | .error _ => files

/-- Makes the directories above a path. -/
def makeParents (working : Location) (files : FileSystem) (path : Path) : FileSystem :=
  (parents path).reverse.foldl (makeOne working) files

def setMode (working : Location) (files : FileSystem) (path : Path) (mode : Mode) : FileSystem :=
  match files.reach working path with
  | .ok (place, node) => files.put place (node.withMode mode)
  | .error _ => files

/-- Puts a new node where nothing is. -/
def create (working : Location) (files : FileSystem) (path : Path) (node : Node) : FileSystem :=
  match files.locate ⟨false, true⟩ working path with
  | .ok place => if (files.node? place).isNone then files.put place node else files
  | .error _ => files

/-- Writes a file; one that exists keeps its permissions. -/
def writeFile (working : Location) (files : FileSystem) (path : Path) (content : Bytes) :
    FileSystem :=
  match files.locate ⟨true, true⟩ working path with
  | .ok place =>
    match files.node? place with
    | none => files.put place (.file defaultMode content)
    | some (.file mode _) => files.put place (.file mode content)
    | some _ => files
  | .error _ => files

/-- Whether one place may become another: a directory takes only an empty directory's place, and no
place of its own. -/
def mayTake (files : FileSystem) (place new : Location) : Bool :=
  !place.isPrefixOf new &&
    match files.node? new with
    | none => true
    | some _ => files.isDirectory place == files.isDirectory new && (files.children new).isEmpty

def apply (working : Location) (files : FileSystem) : Change → FileSystem
  | .write path mode content =>
    setMode working (writeFile working (makeParents working files path) path content) path mode
  | .makeDirectory path mode =>
    setMode working (makeOne working (makeParents working files path) path) path mode
  | .makeLink path target =>
    create working (makeParents working files path) path (.link target)
  | .makePipe path =>
    create working (makeParents working files path) path (.special defaultMode)
  | .setMode path mode => setMode working files path mode
  | .remove path =>
    match files.locate ⟨false, false⟩ working path with
    | .ok place => files.withoutTree place
    | .error _ => files
  | .rename path target =>
    match files.locate ⟨false, false⟩ working path, files.locate ⟨false, true⟩ working target with
    | .ok place, .ok new =>
      if place = new || !files.mayTake place new then files else files.move place new
    | _, _ => files

end CommandShell.FileSystem
