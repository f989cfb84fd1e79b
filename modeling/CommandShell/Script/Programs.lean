import CommandShell.Script.Variables

/-!
Where a script finds programs, and what it remembers of that.
-/

set_option autoImplicit false

namespace CommandShell.Script

/-- The directories that programs are looked for in without a PATH variable. -/
def defaultPath : Text := "/usr/local/sbin:/usr/local/bin:/usr/sbin:/usr/bin:/sbin:/bin".toList

namespace Scene

/-- The files that a program's name may mean. -/
def choices (scene : Scene) (name : Text) : List Text :=
  if name.contains '/' then [name]
  else
    (stretches (· == ':') ((scene.lookup "PATH".toList).getD [])).map fun directory =>
      if directory.isEmpty then name else directory ++ '/' :: name

/-- Whether a file is taken for the one that a program's name means. -/
def isProgram (scene : Scene) (name path : Text) : Bool :=
  match scene.view.kind (toBytes path) with
  | some (.regular _) => true
  | some _ => name.contains '/'
  | none => false

/-- The file that a program's name means. -/
def program? (scene : Scene) (name : Text) : Option Text :=
  (scene.choices name).find? (scene.isProgram name)

/-- The choice that a name is remembered to mean, as the number of those before it. -/
def rememberedPlace? (scene : Scene) (name : Text) : Option Nat :=
  (scene.remembered.lookup name).map (·.1)

/-- The choice that a name means. Of choices that do not depend on the working directory, those before
the remembered one are not looked at again, and that one is taken as it is. -/
def findChoice? (scene : Scene) (name : Text) : Option Nat :=
  let remembered := scene.rememberedPlace? name
  let isFound (choice : Text × Nat) : Bool :=
    match remembered with
    | some place =>
      if choice.1.head? = some '/' && choice.2 ≤ place then choice.2 = place
      else scene.isProgram name choice.1
    | none => scene.isProgram name choice.1
  ((scene.choices name).zipIdx.find? isFound).map (·.2)

/-- The place of a name in the order in which remembered names are shown. -/
def rememberedRank (name : Text) : Nat :=
  match name with
  | [] => 0
  | first :: _ => name.foldl (fun sum c => sum + c.toNat) (first.toNat * 16) % 0x8000 % 31

end Scene

namespace Play

/-- Finds the choice that a program's name means, and remembers it. What is remembered is doubted once
the working directory has changed. -/
def findProgram (name : Text) : Play (Option Nat) := do
  let scene ← get
  let others := scene.remembered.filter (·.1 ≠ name)
  match scene.remembered.lookup name with
  | some (place, false) => return some place
  | old =>
    let found := scene.findChoice? name
    if !name.contains '/' then
      let remembered := match found, old with
        | some place, some _ =>
          scene.remembered.map fun (other, entry) =>
            (other, if other = name then (place, false) else entry)
        | some place, none => scene.remembered ++ [(name, place, false)]
        | none, _ => others
      set { scene with remembered := remembered }
    return found

/-- Remembers a program anew, and complains if there is none. -/
def rememberOne (isKnown : Text → Bool) (name : Text) : Play Nat := do
  modify fun scene => { scene with remembered := scene.remembered.filter (·.1 ≠ name) }
  let scene ← get
  if isKnown name || (scene.functions.lookup name).isSome then return 0
  match ← findProgram name with
  | some _ => return 0
  | none =>
    if name.contains '/' then return 0
    let isThere := (scene.choices name).any fun path => (scene.view.kind (toBytes path)).isSome
    complain (name ++ (if isThere then ": Permission denied" else ": not found").toList)
    return 1

/-- Shows what is remembered of programs, forgets it or adds to it. -/
def rememberAll (isKnown : Text → Bool) (arguments : List Text) : Play Nat := do
  let (flags, names) ← takeFlags ['r'] arguments
  if !flags.isEmpty then
    modify fun scene => { scene with remembered := [] }
    return 0
  else if names.isEmpty then
    let scene ← get
    let shown := scene.remembered.mergeSort fun a b =>
      Scene.rememberedRank a.1 ≤ Scene.rememberedRank b.1
    for (name, place, doubted) in shown do
      print (((scene.choices name)[place]?).getD [] ++ (if doubted then ['*', '\n'] else ['\n']))
    return 0
  else
    let statuses ← names.mapM (rememberOne isKnown)
    return if statuses.all (· = 0) then 0 else 1

end Play

end CommandShell.Script
