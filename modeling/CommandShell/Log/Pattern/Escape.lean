import CommandShell.Log.Pattern.Flags

/-!
What a backslash makes of the characters after it.
-/

set_option autoImplicit false

namespace CommandShell.Pattern

/-- What a backslash and the characters after it stand for. -/
inductive Escape
  /-- A character; `byte` if it is given as a byte. -/
  | char (c : Char) (byte : Bool)
  /-- Digits, blanks or letters, or all but these. -/
  | characters (negated : Bool)
  /-- The beginning or the end of the text. -/
  | edge
  /-- The beginning or the end of a word. -/
  | wordEdge

namespace Escape

def hexDigit? (c : Char) : Option Nat :=
  if c.isDigit then some (c.toNat - '0'.toNat)
  else
    let lower := c.toLower
    if 'a' ≤ lower && lower ≤ 'f' then some (lower.toNat - 'a'.toNat + 10) else none

/-- The value of some hexadecimal digits, on top of those before them. What does not count may
stand in front of each. -/
def readHex (flags : Flags) (number : Nat) : Nat → Text → Option (Nat × Text)
  | 0, t => some (number, flags.skip t)
  | digits + 1, t =>
    match flags.skip t with
    | [] => none
    | c :: rest => (hexDigit? c).bind fun digit => readHex flags (number * 16 + digit) digits rest

/-- A character by the hexadecimal digits of its number. -/
def readNumbered (flags : Flags) (digits : Nat) (t : Text) : Option (Char × Text) :=
  match readHex flags 0 digits t with
  | some (number, rest) => if number.isValidChar then some (Char.ofNat number, rest) else none
  | none => none

/-- The control characters that have a letter. -/
def letters : List (Char × Char) :=
  [('a', '\x07'), ('f', '\x0c'), ('t', '\t'), ('n', '\n'), ('r', '\r'), ('v', '\x0b')]

/-- Reads what follows a backslash. -/
def read (flags : Flags) : Text → Option (Escape × Text)
  | [] => none
  | c :: rest =>
    if c = 'x' then (readNumbered flags 2 rest).map fun (c, rest) => (.char c true, rest)
    else if c = 'u' then (readNumbered flags 4 rest).map fun (c, rest) => (.char c false, rest)
    else if c = 'U' then (readNumbered flags 8 rest).map fun (c, rest) => (.char c false, rest)
    else if c ∈ ['d', 's', 'w'] then some (.characters false, rest)
    else if c ∈ ['D', 'S', 'W'] then some (.characters true, rest)
    else if c ∈ ['A', 'z'] then some (.edge, rest)
    else if c ∈ ['b', 'B', '<', '>'] then some (.wordEdge, rest)
    else
      match letters.lookup c with
      | some control => some (.char control false, rest)
      | none =>
        if c.toNat < 0x80 && !c.isAlphanum then some (.char c false, rest) else none

/-- Whether it can be matched. -/
def isKnown (flags : Flags) : Escape → Bool
  | .char c byte => !flags.foldsUnicode && (flags.unicode || !byte || c.toNat < 0x80)
  | .characters negated => !flags.unicode && !negated
  | .edge => true
  | .wordEdge => !flags.unicode

end Escape

end CommandShell.Pattern
