import CommandShell.FileSystem.Basic

/-!
Permissions as they are written: octal digits, or clauses that give and take letters.
-/

set_option autoImplicit false

namespace CommandShell.Permission

/-- Reads octal digits. -/
def readOctal (t : Text) : Option Mode :=
  if !t.isEmpty && t.all (fun c => '0' ≤ c && c ≤ '7') then
    let mode := t.foldl (fun mode c => mode * 8 + (c.toNat - '0'.toNat)) 0
    if mode ≤ 0o7777 then some mode else none
  else none

/-- The bits of those whom a letter names. -/
def bitsOf : Char → Mode
  | 'u' => 0o4700
  | 'g' => 0o2070
  | 'o' => 0o1007
  | 'a' => 0o7777
  | _ => 0

/-- The bits of everybody that a letter stands for, given the permissions there are. -/
def bitsFor (isDirectory : Bool) (mode : Mode) : Char → Mode
  | 'r' => 0o444
  | 'w' => 0o222
  | 'x' => 0o111
  | 'X' => if isDirectory || mode.executable then 0o111 else 0
  | 's' => 0o6000
  | 't' => 0o1000
  | 'u' => mode / 64 % 8 * 0o111
  | 'g' => mode / 8 % 8 * 0o111
  | 'o' => mode % 8 * 0o111
  | _ => 0

/-- The bits of one number that are not in another. -/
def without (mode taken : Mode) : Mode := mode - (mode &&& taken)

/-- Carries out one sign and its letters. Where nobody is named, the bits of the mask stay. -/
def applyOne (isDirectory : Bool) (mask : Mode) (who : Text) (sign : Char) (letters : Text)
    (mode : Mode) : Mode :=
  let everybody := who.isEmpty
  let concerned :=
    if everybody then without 0o7777 mask else who.foldl (fun bits c => bits ||| bitsOf c) 0
  let bits := letters.foldl (fun bits c => bits ||| bitsFor isDirectory mode c) 0 &&& concerned
  match sign with
  | '+' => mode ||| bits
  | '-' => without mode bits
  | _ =>
    let kept := if isDirectory then mode &&& 0o6000 else 0
    without mode (if everybody then 0o7777 else concerned) ||| bits ||| kept

/-- Carries out the signs of a clause on permissions. `fuel` bounds their number. -/
def applySigns (isDirectory : Bool) (mask : Mode) (who : Text) (fuel : Nat) (t : Text)
    (mode : Mode) : Option Mode :=
  match fuel, t with
  | 0, _ | _, [] => some mode
  | fuel + 1, sign :: rest =>
    if ['+', '-', '='].contains sign then
      let letters := rest.takeWhile fun c => c ∈ ['r', 'w', 'x', 'X', 's', 't']
      let copied := if letters.isEmpty then rest.takeWhile (· ∈ ['u', 'g', 'o']) else []
      if copied.length > 1 then none
      else
        let letters := letters ++ copied
        applySigns isDirectory mask who fuel (rest.drop letters.length)
          (applyOne isDirectory mask who sign letters mode)
    else none

/-- Carries out a clause: who is concerned, and signs with letters. -/
def applyClause (isDirectory : Bool) (mask : Mode) (mode : Mode) (clause : Text) : Option Mode :=
  let who := clause.takeWhile fun c => c ∈ ['u', 'g', 'o', 'a']
  let signs := clause.drop who.length
  if signs.isEmpty then none else applySigns isDirectory mask who signs.length signs mode

/-- What permissions come to that are changed as a text says. -/
def change (isDirectory : Bool) (mask : Mode) (t : Text) (mode : Mode) : Option Mode :=
  match readOctal t with
  | some mode => some mode
  | none =>
    (stretches (· == ',') t).foldl
      (fun mode clause => mode.bind fun mode => applyClause isDirectory mask mode clause) (some mode)

/-- Whether a text says how permissions are changed. -/
def isChange (t : Text) : Bool := (change false 0 t 0).isSome

end CommandShell.Permission
