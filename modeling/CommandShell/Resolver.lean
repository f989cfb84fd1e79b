import CommandShell.Builtin
import CommandShell.SearchPath

/-!
Telling what a command name stands for.
-/

set_option autoImplicit false

namespace CommandShell

/-- Where the search path comes from: the environment at each lookup, or one value for good. -/
inductive PathSource
  | environment
  | fixed (value : Bytes)

/-- What a lookup depends on: the PATH variable, if it is set, and the files. -/
structure Surroundings where
  path : Option Bytes
  files : Files

inductive Resolution
  | builtin (builtin : Builtin)
  | executable (path : Path)
  | notFound
  deriving DecidableEq

namespace PathSource

/-- Without a PATH variable there are no directories. -/
def searchPath (source : PathSource) (around : Surroundings) : SearchPath :=
  match source with
  | .environment => (around.path.map SearchPath.parse).getD .empty
  | .fixed value => SearchPath.parse value

/-- The search path alone, builtins aside. -/
def findInPath (source : PathSource) (around : Surroundings) (name : Text) : Option Path :=
  (source.searchPath around).find around.files.isExecutable name

/-- A builtin goes before every file of its name. -/
def resolve (source : PathSource) (around : Surroundings) (name : Text) : Resolution :=
  if name.isEmpty then .notFound
  else match Builtin.find? name with
    | some builtin => .builtin builtin
    | none =>
      match source.findInPath around name with
      | some path => .executable path
      | none => .notFound

/-- The builtins and executable files whose names start with a given text. -/
def commandsStarting (source : PathSource) (around : Surroundings) (start : Text) : List Text :=
  NameSet.ofList
    ((source.searchPath around).executables around.files start ++
      Builtin.names.filter (start.isPrefixOf ·))

end PathSource

end CommandShell
