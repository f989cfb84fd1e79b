import CommandShell.FileSystem.Change
import CommandShell.NameSet
import CommandShell.Resolver

/-!
The machine a session runs on: its files, the working directory and the environment.
-/

set_option autoImplicit false

namespace CommandShell

/-- The programs every machine has. -/
inductive Native
  | shell
  | succeed
  | fail
  | echo
  | concatenate
  | sleep
  | environment
  | whereAmI
  | makeDirectories
  | touch
  | remove
  | removeDirectories
  | move
  | copy
  | link
  | setModes
  | list
  | baseName
  | directoryNames
  | readLinks
  deriving DecidableEq

namespace Native

def all : List Native :=
  [.shell, .succeed, .fail, .echo, .concatenate, .sleep, .environment, .whereAmI, .makeDirectories,
    .touch, .remove, .removeDirectories, .move, .copy, .link, .setModes, .list, .baseName,
    .directoryNames, .readLinks]

def names : Native → List Text
  | .shell => ["sh".toList, "dash".toList]
  | .succeed => ["true".toList]
  | .fail => ["false".toList]
  | .echo => ["echo".toList]
  | .concatenate => ["cat".toList]
  | .sleep => ["sleep".toList]
  | .environment => ["env".toList]
  | .whereAmI => ["pwd".toList]
  | .makeDirectories => ["mkdir".toList]
  | .touch => ["touch".toList]
  | .remove => ["rm".toList]
  | .removeDirectories => ["rmdir".toList]
  | .move => ["mv".toList]
  | .copy => ["cp".toList]
  | .link => ["ln".toList]
  | .setModes => ["chmod".toList]
  | .list => ["ls".toList]
  | .baseName => ["basename".toList]
  | .directoryNames => ["dirname".toList]
  | .readLinks => ["readlink".toList]

/-- What the file of a native program holds. -/
def content (native : Native) : Bytes :=
  0x7F :: (("ELF".toList :: native.names).flatMap Utf8.encode)

def ofContent? (content : Bytes) : Option Native := all.find? (·.content = content)

end Native

namespace FileSystem

/-- The place of a path given as text. -/
def placeOf (path : String) : Location := pieces (· == Path.slash) (Utf8.encode path.toList)

/-- The files of a machine nobody has used yet. -/
def initial : FileSystem :=
  let directories :=
    ["/dev", "/etc", "/home", "/proc", "/root", "/tmp", "/usr", "/usr/bin", "/usr/lib", "/usr/local",
      "/usr/local/bin", "/usr/sbin", "/var"].map fun path => (placeOf path, Node.directory 0o755)
  let links :=
    [("/bin", "usr/bin"), ("/lib", "usr/lib"), ("/sbin", "usr/sbin")].map fun (path, target) =>
      (placeOf path, Node.link (Utf8.encode target.toList))
  let programs := Native.all.flatMap fun native => native.names.map fun name =>
    (placeOf "/usr/bin" ++ [Utf8.encode name], Node.file 0o755 native.content)
  ⟨directories ++ links ++ [(placeOf "/dev/null", .special 0o666)] ++ programs⟩

/-- Adds a directory and those above it, given by its names. -/
def withDirectory (files : FileSystem) (place : Location) : FileSystem :=
  ((List.range place.length).map fun n => place.take (n + 1)).foldl (fun files place =>
    if (files.node? place).isNone then files.put place (.directory 0o755) else files) files

end FileSystem

structure Machine where
  files : FileSystem
  working : Location
  environment : List (Text × Bytes)

namespace Machine

def get (machine : Machine) (name : String) : Option Bytes :=
  machine.environment.lookup name.toList

/-- Sets a variable, or takes it away. The variables stand in the order of their names. -/
def set (machine : Machine) (name : String) (value : Option Bytes) : Machine :=
  let others := machine.environment.filter (·.1 ≠ name.toList)
  let (before, after) := others.partition fun (other, _) => other.precedes name.toList
  { machine with
    environment := before ++ (value.map fun value => (name.toList, value)).toList ++ after }

def path (machine : Machine) : Option Bytes := machine.get "PATH"

/-- The home directory. -/
def home (machine : Machine) : Path := (machine.get "HOME").getD []

def view (machine : Machine) : Files := machine.files.view machine.working

/-- What lookups see of the machine. -/
def surroundings (machine : Machine) : Surroundings := ⟨machine.path, machine.view⟩

/-- A machine with one directory besides its own files, in which it works. -/
def workingIn (directory : Path) : Machine :=
  let place := FileSystem.names directory
  ⟨FileSystem.initial.withDirectory place, place, []⟩

inductive Change
  | files (change : FileSystem.Change)
  /-- Sets the PATH variable, or takes it away. -/
  | path (value : Option Bytes)

def apply (machine : Machine) : Change → Machine
  | .files change => { machine with files := machine.files.apply machine.working change }
  | .path value => machine.set "PATH" value

end Machine

end CommandShell
