import CommandShell.Text.Utf8

/-!
Paths as byte lists: joining a name to a directory, and the names a path is made of.
-/

set_option autoImplicit false

namespace CommandShell

abbrev Path := Bytes

namespace Path

def slash : UInt8 := 0x2F

def isAbsolute (path : Path) : Bool := path.head? == some slash

/-- A name below a directory, with one slash between them unless the directory brings its own.
Nothing is normalised. -/
def join (directory : Path) (name : Bytes) : Path :=
  if directory.isEmpty || directory.getLast? == some slash then directory ++ name
  else directory ++ slash :: name

theorem join_eq_append (directory : Path) (name : Bytes) :
    ∃ between, join directory name = directory ++ between ++ name := by
  unfold join
  split
  · exact ⟨[], by simp⟩
  · exact ⟨[slash], by simp⟩

/-- A path as it is shown. -/
def display (path : Path) : Text := Utf8.lossy path

end CommandShell.Path
