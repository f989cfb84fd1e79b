import CommandShell.Process.Shared
import CommandShell.Process.Termination

/-!
What a script finds around it: other programs, which it calls and which leave something behind.
-/

set_option autoImplicit false

namespace CommandShell

/-- What a program leaves when it is over, and its wait status. -/
structure Performance extends Shared where
  status : Int32

namespace Script

/-- What a program is given: the files it may be, the first that can be started is the one. -/
structure Call extends Shared where
  choices : List Path
  /-- Its arguments, the name it goes by first. -/
  arguments : List Bytes
  environment : List (Text × Bytes)
  working : Location
  /-- The permissions that new files are not given. -/
  mask : Mode
  channels : List (Nat × Channel)

/-- Why a program could not be started: the status that says so, and the complaint. -/
structure Refused where
  status : Nat
  complaint : Text

/-- Runs other programs. -/
abbrev Stage := Call → Except Refused Performance

end Script

end CommandShell
