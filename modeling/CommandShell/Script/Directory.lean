import CommandShell.Script.Variables

/-!
The working directory of a script.
-/

set_option autoImplicit false

namespace CommandShell.Script

/-- The path of a place. -/
def pathOf (place : Location) : Text :=
  if place.isEmpty then ['/'] else place.flatMap fun name => '/' :: ofBytes name

/-- Follows a path in writing: a name adds to it and two dots take one off, whatever is there. -/
def followInWriting (start path : Text) : Text :=
  let doubled := path.take 2 = ['/', '/'] && path.take 3 ≠ ['/', '/', '/']
  let names := (pieces (· == '/') path).foldl (fun names name =>
      if name = ['.'] then names
      else if name = ['.', '.'] then names.dropLast
      else names ++ [name])
    (if path.head? = some '/' then [] else pieces (· == '/') start)
  (if doubled then ['/'] else []) ++
    if names.isEmpty then ['/'] else names.flatMap ('/' :: ·)

namespace Play

/-- Gives a variable of the script itself a value that is handed on. -/
def publish (name : String) (value : Text) : Play Unit :=
  modify fun scene => scene.bind name.toList ⟨some value, true, false⟩

/-- Goes to a directory, and tells whether that was possible. -/
def enter (physical : Bool) (path : Text) : Play Bool := do
  let scene ← get
  let wanted := if physical then path else followInWriting scene.logical path
  match scene.files.reach scene.working (toBytes wanted) with
  | .ok (place, .directory _) =>
    let logical := if physical then pathOf place else wanted
    let doubted := scene.remembered.map fun (name, choice, _) => (name, choice, true)
    set { scene with working := place, logical := logical, remembered := doubted }
    publish "OLDPWD" scene.logical
    publish "PWD" logical
    return true
  | _ => return false

/-- Whether a path says itself from where it starts. -/
def saysStart (path : Text) : Bool :=
  let first := path.takeWhile (· ≠ '/')
  path.head? = some '/' || first = ['.'] || first = ['.', '.']

/-- Where a directory is: in one of those that the script names for that, or else here. In the former
case it is shown. -/
def directoryChoice (scene : Scene) (path : Text) : Text × Bool :=
  let named : List (Text × Bool) :=
    match scene.lookup "CDPATH".toList with
    | some places =>
      if saysStart path then []
      else (stretches (· == ':') places).map fun place =>
        if place.isEmpty then (path, false) else (place ++ '/' :: path, true)
    | none => []
  let isDirectory (choice : Text × Bool) : Bool :=
    scene.view.kind (toBytes choice.1) = some .directory
  (named.find? isDirectory).getD (path, false)

/-- Changes the working directory. -/
def changeDirectory (arguments : List Text) : Play Nat := do
  let (flags, operands) ← takeFlags ['L', 'P'] arguments
  let scene ← get
  let back := operands.head? = some ['-']
  let wanted : Text :=
    match operands with
    | [] => (scene.lookup "HOME".toList).getD []
    | path :: _ => if back then (scene.lookup "OLDPWD".toList).getD [] else path
  let path := if wanted.isEmpty then ['.'] else wanted
  let (choice, isShown) := directoryChoice scene path
  if ← enter (flags.getLast? = some 'P') choice then
    if back || isShown then print ((← get).logical ++ ['\n'])
    return 0
  else fail ("can't cd to ".toList ++ path)

def printDirectory (arguments : List Text) : Play Nat := do
  let (flags, _) ← takeFlags ['L', 'P'] arguments
  let scene ← get
  print ((if flags.getLast? = some 'P' then pathOf scene.working else scene.logical) ++ ['\n'])
  return 0

/-- The permissions that a mask leaves to one kind of users, whose first bit counts `unit`. -/
def leftPermissions (mask : Mode) (unit : Nat) : Text :=
  let bits := mask / unit % 8
  (if bits / 4 % 2 = 0 then ['r'] else []) ++ (if bits / 2 % 2 = 0 then ['w'] else []) ++
    (if bits % 2 = 0 then ['x'] else [])

/-- A mask as a clause of letters changes it. -/
def applyClause (mask : Mode) (clause : Text) : Option Mode :=
  let who := clause.takeWhile fun c => ['u', 'g', 'o', 'a'].contains c
  match clause.drop who.length with
  | sign :: letters =>
    if !(['=', '+', '-'].contains sign) || !letters.all ['r', 'w', 'x'].contains then none
    else
      let one (c : Char) : Nat := if c = 'r' then 4 else if c = 'w' then 2 else 1
      let bits := (['r', 'w', 'x'].filter letters.contains).foldl (fun sum c => sum + one c) 0
      let change (mask : Mode) (unit : Nat) : Mode :=
        let old := mask / unit % 8
        let new :=
          if sign = '=' then 7 - bits
          else if sign = '+' then old - (old &&& bits)
          else old ||| bits
        mask - old * unit + new * unit
      let isMeant (c : Char) : Bool := who.isEmpty || who.contains c || who.contains 'a'
      let meant := [('u', 64), ('g', 8), ('o', 1)].filter fun (c, _) => isMeant c
      some (meant.foldl (fun mask (_, unit) => change mask unit) mask)
  | [] => none

/-- Shows the permissions that new files are not given, or sets them. -/
def setMask (arguments : List Text) : Play Nat := do
  let (flags, operands) ← takeFlags ['S'] arguments
  let mask := (← get).mask
  match operands with
  | [] =>
    if flags.isEmpty then
      let digits := Nat.toDigits 8 mask
      print (List.replicate (4 - digits.length) '0' ++ digits ++ ['\n'])
    else
      print ("u=".toList ++ leftPermissions mask 64 ++ ",g=".toList ++ leftPermissions mask 8 ++
        ",o=".toList ++ leftPermissions mask 1 ++ ['\n'])
    return 0
  | wanted :: _ =>
    let illegal (what : String) : Play Nat := fail (what.toList ++ wanted)
    if wanted.head?.any Char.isDigit then
      if wanted.all fun c => '0' ≤ c && c ≤ '7' then
        let new := wanted.foldl (fun n c => n * 8 + (c.toNat - '0'.toNat)) 0
        modify fun scene => { scene with mask := new % 512 }
        return 0
      else illegal "Illegal number: "
    else
      match (stretches (· == ',') wanted).foldlM applyClause mask with
      | some new =>
        modify fun scene => { scene with mask := new }
        return 0
      | none => illegal "Illegal mode: "

end Play

end CommandShell.Script
