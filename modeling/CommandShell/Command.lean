import CommandShell.Text.Blank
import CommandShell.Text.Split

/-!
One input line, cut into a command word and its arguments.
-/

set_option autoImplicit false

namespace CommandShell

/-- The stretches of a text between white space. -/
def words (t : Text) : List Text := pieces isBlank t

structure Command where
  word : Text
  arguments : List Text
  deriving DecidableEq

namespace Command

/-- What a line of white space says: no word, no arguments. -/
def blank : Command := ⟨[], []⟩

/-- The first word is the command, the others are its arguments. Quotes and escapes mean
nothing. -/
def parse (line : Text) : Command :=
  match words line with
  | [] => blank
  | word :: arguments => ⟨word, arguments⟩

def isBlank (command : Command) : Bool := command.word.isEmpty

end Command

end CommandShell
