import CommandShell.Text.Decimal
import CommandShell.Text.Extending
import CommandShell.Text.Unprintable
import CommandShell.Text.Utf8

/-!
Text between double quotes, in which every character without a plain visible form is escaped.
-/

set_option autoImplicit false

namespace CommandShell.Quoted

/-- A code point by its number, as in `\u{200b}`. -/
def codePoint (c : Char) : Text :=
  ['\\', 'u', '\x7b'] ++ Decimal.hex c.toNat ++ ['\x7d']

/-- Letters that are blank: the fillers of Korean syllables. -/
def isFiller (c : Char) : Bool := c ∈ ['\u115f', '\u1160', '\u3164', '\uffa0']

/-- The voicing marks that take the width of a letter, so that they can stand for themselves. -/
def standsAlone (c : Char) : Bool := c ∈ ['\uff9e', '\uff9f']

/-- Whether a character can be seen, and does not change the look of the one before it. -/
def isPlain (c : Char) : Bool :=
  !isFiller c && !CharTable.unprintable.contains c &&
    (standsAlone c || !CharTable.extending.contains c)

/-- A character as it stands between quotes. -/
def escape (c : Char) : Text :=
  if c = '\x00' then ['\\', '0']
  else if c = '\t' then ['\\', 't']
  else if c = '\r' then ['\\', 'r']
  else if c = '\n' then ['\\', 'n']
  else if c = '\\' then ['\\', '\\']
  else if c = '\x22' then ['\\', '\x22']
  else if isPlain c then [c]
  else codePoint c

def enclose (t : Text) : Text := '\x22' :: t ++ ['\x22']

def text (t : Text) : Text := enclose (t.flatMap escape)

/-- Two upper-case hexadecimal digits after `\x`. -/
def rawByte (b : UInt8) : Text :=
  let digit (n : Nat) : Char := (Nat.digitChar n).toUpper
  ['\\', 'x', digit (b.toNat / 16), digit (b.toNat % 16)]

/-- Quoted bytes are quoted text where they are UTF-8, and show every other byte by its number. -/
def bytes (b : Bytes) : Text :=
  enclose ((Utf8.toPieces b).flatMap fun
    | .char c => escape c
    | .broken raw => raw.flatMap rawByte)

/-- Items between brackets. -/
def list (items : List Text) : Text :=
  '[' :: ", ".toList.intercalate (items.map text) ++ [']']

end CommandShell.Quoted
