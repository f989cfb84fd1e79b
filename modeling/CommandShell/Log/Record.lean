import CommandShell.Log.Level

/-!
Log records and how one is written.
-/

set_option autoImplicit false

namespace CommandShell

structure Field where
  name : Text
  value : Text
  deriving DecidableEq

/-- A record: how grave it is, the part of the program it comes from, what happened and the
particulars. -/
structure Record where
  level : Level
  target : Text
  message : Text
  fields : List Field
  deriving DecidableEq

namespace Record

/-- The written record, without time and target. A value may hold line feeds. -/
def display (record : Record) : Text :=
  record.level.label ++ ' ' :: record.message
    ++ record.fields.flatMap fun field => ' ' :: field.name ++ '=' :: field.value

end Record

end CommandShell
