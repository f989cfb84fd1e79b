/-!
Text is a list of characters, raw data a list of bytes.
-/

set_option autoImplicit false

namespace CommandShell

/-- What users type and what is shown to them. -/
abbrev Text := List Char

/-- What files, paths and streams hold. -/
abbrev Bytes := List UInt8

end CommandShell
