import CommandShell.Text.ControlSequence

/-!
How parts of a message stand out on a terminal. Main statement: emphasis leaves no trace in the
stripped text.
-/

set_option autoImplicit false

namespace CommandShell

inductive Emphasis
  /-- The word that says something is wrong. -/
  | alarm
  /-- What was wrong. -/
  | wrong
  /-- What would be right. -/
  | right
  | heading
  /-- What is typed as it stands. -/
  | literal
  deriving DecidableEq

namespace Emphasis

/-- Starts to stand out. -/
def opening : Emphasis → Text
  | .alarm => "\x1b[1m\x1b[31m".toList
  | .wrong => "\x1b[33m".toList
  | .right => "\x1b[32m".toList
  | .heading => "\x1b[1m\x1b[4m".toList
  | .literal => "\x1b[1m".toList

/-- Ends to stand out, in any way. -/
def closing : Text := "\x1b[0m".toList

/-- A text that is to stand out. -/
def mark (emphasis : Emphasis) (t : Text) : Text := emphasis.opening ++ t ++ closing

/-- A text that is to stand out, between quotes that are not. -/
def quote (emphasis : Emphasis) (t : Text) : Text := '\x27' :: emphasis.mark t ++ ['\x27']

open ControlSequence in
theorem strip_mark_append (emphasis : Emphasis) (t rest : Text) (shown : t.all isPlain = true) :
    strip (emphasis.mark t ++ rest) = t ++ strip rest := by
  have before (t : Text) : strip (emphasis.opening ++ t) = strip t := by
    have hidden : strip emphasis.opening = [] := by cases emphasis <;> decide
    have closed : emphasis.opening.foldl Reader.next .start = .start := by
      cases emphasis <;> decide
    rw [strip, stripFrom_append, closed, ← strip, hidden, List.nil_append, ← strip]
  have behind : strip (closing ++ rest) = strip rest := by
    have hidden : strip closing = [] := by decide
    have closed : closing.foldl Reader.next .start = .start := by decide
    rw [strip, stripFrom_append, closed, ← strip, hidden, List.nil_append, ← strip]
  rw [mark, List.append_assoc, List.append_assoc, before, strip_append_of_shown t _ shown, behind]

end Emphasis

end CommandShell
