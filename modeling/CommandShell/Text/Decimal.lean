import CommandShell.Text.Basic

/-!
Decimal numerals: writing numbers, and reading the ones that fit in 64 bits.
-/

set_option autoImplicit false

namespace CommandShell.Decimal

/-- One past the greatest number that is read. -/
def limit : Nat := 0x10000000000000000

inductive Fault
  | empty
  | notDigit
  | tooLarge
  deriving DecidableEq

def Fault.message : Fault → Text
  | .empty => "cannot parse integer from empty string".toList
  | .notDigit => "invalid digit found in string".toList
  | .tooLarge => "number too large to fit in target type".toList

/-- Goes on from the digits read so far. The first character that is no digit, or that makes the
number too large, decides the fault. -/
def readDigits (sofar : Nat) : Text → Except Fault Nat
  | [] => .ok sofar
  | c :: rest =>
    if c.isDigit then
      let next := sofar * 10 + (c.toNat - '0'.toNat)
      if next < limit then readDigits next rest else .error .tooLarge
    else .error .notDigit

/-- An optional plus sign and at least one digit. -/
def parse (t : Text) : Except Fault Nat :=
  match t with
  | [] => .error .empty
  | ['+'] => .error .notDigit
  | '+' :: digits => readDigits 0 digits
  | digits => readDigits 0 digits

def print (n : Nat) : Text := Nat.toDigits 10 n

def printInt (i : Int) : Text := if i < 0 then '-' :: print i.natAbs else print i.natAbs

/-- Lower-case hexadecimal digits. -/
def hex (n : Nat) : Text := Nat.toDigits 16 n

end CommandShell.Decimal
