import CommandShell.Text.Basic
import CommandShell.Text.Blank

/-!
The flags of a regular expression, and what they let its text leave out.
-/

set_option autoImplicit false

namespace CommandShell.Pattern

/-- What the flags of a regular expression say. -/
structure Flags where
  /-- Letters stand for both of their cases. -/
  caseless : Bool
  /-- Characters are matched, not bytes. -/
  unicode : Bool
  /-- Blanks and comments do not count. -/
  spaced : Bool

namespace Flags

def start : Flags := ⟨false, true, false⟩

/-- Whether cases beyond ASCII would have to be known. -/
def foldsUnicode (flags : Flags) : Bool := flags.caseless && flags.unicode

/-- Drops blanks and comments: the flag tells whether a comment is open. -/
def dropSpace (comment : Bool) : Text → Text
  | [] => []
  | c :: rest =>
    if comment then dropSpace (c ≠ '\n') rest
    else if c = '#' then dropSpace true rest
    else if isBlank c then dropSpace false rest
    else c :: rest

/-- Drops what does not count in front of a text. -/
def skip (flags : Flags) (t : Text) : Text := if flags.spaced then dropSpace false t else t

/-- The first character that is no blank, or else does not open a comment; inside a comment any
counts. -/
def firstVisible (comment : Bool) : Text → Option Char
  | [] => none
  | c :: rest =>
    if isBlank c then firstVisible comment rest
    else if !comment && c = '#' then firstVisible true rest
    else some c

/-- A guess at the next character that counts, without a step towards it. It is wrong where a
comment stands in between; where there is none, it is the very next character. -/
def glance (flags : Flags) (t : Text) : Option Char :=
  if flags.spaced then (firstVisible false t).orElse fun _ => t.head? else t.head?

/-- Reads flags up to a colon or a closing parenthesis, and tells which of these it is. Those after
a hyphen are taken away. `seen` holds the characters read so far. -/
def read (seen : Text) (flags : Flags) : Text → Option (Flags × Char × Text)
  | [] => none
  | c :: rest =>
    if c = ':' || c = ')' then
      if seen.head? = some '-' || (c = ')' && seen.isEmpty) then none else some (flags, c, rest)
    else if seen.contains c then none
    else
      let on := !seen.contains '-'
      match c with
      | 'i' => read (c :: seen) { flags with caseless := on } rest
      | 'u' => read (c :: seen) { flags with unicode := on } rest
      | 'x' => read (c :: seen) { flags with spaced := on } rest
      | '-' | 'm' | 's' | 'U' | 'R' => read (c :: seen) flags rest
      | _ => none

end Flags

end CommandShell.Pattern
