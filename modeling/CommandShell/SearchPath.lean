import CommandShell.Files
import CommandShell.NameSet
import CommandShell.Text.Split

/-!
The directories that commands are looked for in.
-/

set_option autoImplicit false

namespace CommandShell

/-- Directories in the order they are searched. -/
structure SearchPath where
  directories : List Path
  deriving DecidableEq

namespace SearchPath

def colon : UInt8 := 0x3A

/-- The directories of a PATH value: the stretches between colons, empty ones dropped. Quotes and
backslashes mean nothing. -/
def parse (value : Bytes) : SearchPath := ⟨pieces (· == colon) value⟩

def empty : SearchPath := ⟨[]⟩

/-- The first directory under which the name is executable gives the answer. A name may have
directories of its own but may not start at the root. -/
def find (search : SearchPath) (isExecutable : Path → Bool) (name : Text) : Option Path :=
  if name.isEmpty || name.head? == some '/' then none
  else (search.directories.map fun directory => Path.join directory (Utf8.encode name)).find?
    isExecutable

/-- The names of the executable files in one directory that start with a given text. A name that
is not text is passed over. -/
def executablesIn (files : Files) (start : Text) (directory : Path) : List Text :=
  ((files.list directory).getD []).filterMap fun entry =>
    (Utf8.decode entry).filter fun name =>
      start.isPrefixOf name && files.isExecutable (Path.join directory entry)

/-- The names of the executable files in all directories that start with a given text. -/
def executables (search : SearchPath) (files : Files) (start : Text) : List Text :=
  NameSet.ofList (search.directories.flatMap (executablesIn files start))

theorem parse_append (front back : Bytes) :
    (parse (front ++ colon :: back)).directories =
      (parse front).directories ++ (parse back).directories :=
  pieces_append_cons _ front back colon rfl

end SearchPath

end CommandShell
