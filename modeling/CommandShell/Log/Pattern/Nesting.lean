/-!
How deep the parts of a regular expression are nested.
-/

set_option autoImplicit false

namespace CommandShell.Pattern

/-- Deeper nesting is refused. -/
def nestLimit : Nat := 250

/-- Parts side by side: how many they are, and how deep the deepest is nested. -/
structure Row where
  count : Nat
  deepest : Nat

namespace Row

def empty : Row := ⟨0, 0⟩

def add (row : Row) (depth : Nat) : Row := ⟨row.count + 1, max row.deepest depth⟩

/-- Several parts are nested in what holds them together; one part stands for itself. -/
def depth (row : Row) : Nat := if row.count ≤ 1 then row.deepest else row.deepest + 1

end Row

end CommandShell.Pattern
