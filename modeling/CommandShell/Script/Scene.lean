import CommandShell.Script.Source
import CommandShell.Script.Stage
import CommandShell.Text.Decimal

/-!
The state of a running script: its variables, its descriptors and the files around it.
-/

set_option autoImplicit false

namespace CommandShell.Script

/-- Bytes as the characters that stand for them. -/
def ofBytes (bytes : Bytes) : Text := bytes.map fun b => Char.ofNat b.toNat

def toBytes (t : Text) : Bytes := t.map fun c => UInt8.ofNat c.toNat

/-- A variable. It may be known without having a value. -/
structure Binding where
  value : Option Text
  exported : Bool
  constant : Bool

/-- Why a script does not go on where it is. -/
inductive Stop
  /-- The script ends, with the status it has if there is none here. -/
  | exit (status : Option Nat)
  /-- Something is wrong with a command that cannot be done without. -/
  | failed
  /-- Another program has taken the place of the script, and is over. -/
  | replaced (termination : Termination)
  | kill (signal : Nat)
  /-- Leave so many loops. -/
  | leaveLoops (count : Nat)
  /-- Leave one less than so many loops, and go on with the next round of the last. -/
  | nextRound (count : Nat)
  /-- Leave a function. -/
  | giveBack (status : Nat)

structure Scene extends Shared where
  name : Text
  arguments : List Text
  bindings : List (Text × Binding)
  /-- What the functions that are being run have hidden, the innermost one first. -/
  hidden : List (List (Text × Option Binding))
  functions : List (Text × Statement)
  /-- The programs that have been found: which choice it was, and whether that is doubted. -/
  remembered : List (Text × Nat × Bool)
  /-- The options that are set, by their letters. -/
  options : Text
  status : Nat
  /-- The status of the last statement whose output was put into the present command. -/
  outputStatus : Option Nat
  /-- The line of the statement that is run. -/
  line : Nat
  /-- The text that is read. -/
  source : Source
  /-- The argument whose options are being taken, and how many of its characters are. -/
  letterPlace : Nat × Nat
  /-- How many loops are being run. -/
  loops : Nat
  /-- A command that complaints are made in the name of. -/
  speaker : Option Text
  channels : List (Nat × Channel)
  /-- Something could not be written. -/
  unwritten : Bool
  working : Location
  /-- The path by which the script came to the working directory. -/
  logical : Text
  /-- The permissions that new files are not given. -/
  mask : Mode
  /-- What is done on a signal, or at the end, which has the number zero. -/
  traps : List (Nat × Text)
  /-- In a copy of the script's surroundings, what the script itself does on signals. -/
  outerTraps : Option (List (Nat × Text))
  /-- The signals that the script has not reacted to yet. -/
  pending : List Nat
  /-- What was run in the background, the last one first, with its end. -/
  jobs : List (Text × Termination)

/-- Runs a part of a script. -/
abbrev Play := ExceptT Stop (StateM Scene)

/-- The number by which a script knows itself. -/
def ownId : Text := "4242".toList

namespace Scene

def view (scene : Scene) : Files := scene.files.view scene.working

def isSet (scene : Scene) (option : Char) : Bool := scene.options.contains option

/-- A queue that is new, and its number. -/
def withQueue (scene : Scene) (bytes : Bytes) : Scene × Nat :=
  let (shared, number) := scene.openQueue bytes
  ({ scene with toShared := shared }, number)

/-- Writes to a descriptor, and tells whether that can be done. -/
def writeTo (scene : Scene) (descriptor : Nat) (bytes : Bytes) : Scene × Bool :=
  let (shared, written) := scene.write (scene.channels.lookup descriptor) bytes
  ({ scene with toShared := shared }, written)

/-- What can be read from the input. -/
def input (scene : Scene) : Bytes := (scene.remaining (scene.channels.lookup 0)).toOption.getD []

/-- Leaves the rest of what could be read from the input. -/
def leaveInput (scene : Scene) (rest : Bytes) : Scene :=
  { scene with toShared := scene.leave (scene.channels.lookup 0) rest }

def lookup (scene : Scene) (name : Text) : Option Text :=
  (scene.bindings.lookup name).bind (·.value)

/-- Forgets which programs have been found if a variable decides on that. -/
def forgetting (scene : Scene) (name : Text) : Scene :=
  if name = "PATH".toList then { scene with remembered := [] } else scene

/-- Changes a variable in its place, or puts a new one behind the others. -/
def bind (scene : Scene) (name : Text) (binding : Binding) : Scene :=
  { scene.forgetting name with
    bindings :=
      if (scene.bindings.lookup name).isSome then
        scene.bindings.map fun (other, old) =>
          (other, if other = name then binding else old)
      else scene.bindings ++ [(name, binding)] }

def unbind (scene : Scene) (name : Text) : Scene :=
  { scene.forgetting name with bindings := scene.bindings.filter (·.1 ≠ name) }

def restoreBinding (scene : Scene) (name : Text) : Option Binding → Scene
  | some binding => scene.bind name binding
  | none => scene.unbind name

/-- The place of a variable in the order in which variables are handed on. -/
def rank (name : Text) : Nat :=
  match name with
  | [] => 0
  | first :: _ => name.foldl (fun sum c => sum + c.toNat) (first.toNat * 16) % 39

/-- The variables that programs are given. -/
def exports (scene : Scene) : List (Text × Text) :=
  let exported := scene.bindings.filterMap fun (name, binding) =>
    if binding.exported then binding.value.map (name, ·) else none
  exported.mergeSort fun a b => rank a.1 ≤ rank b.1

/-- The letters of the options, in the order in which they are shown. -/
def optionLetters : Text := "pubaCEVvxsnmiIfe".toList

def shownOptions (scene : Scene) : Text := optionLetters.filter scene.isSet

/-- The value of a parameter that is no list, if it has one. -/
def value? (scene : Scene) (name : Text) : Option Text :=
  match name with
  | ['#'] => some (Decimal.print scene.arguments.length)
  | ['?'] => some (Decimal.print scene.status)
  | ['$'] => some ownId
  | ['-'] => some scene.shownOptions
  | ['!'] => scene.jobs.head?.map (·.1)
  | _ =>
    match Decimal.parse name with
    | .ok 0 => some scene.name
    | .ok place => scene.arguments[place - 1]?
    | .error _ => scene.lookup name

/-- The characters that values are split at. -/
def separators (scene : Scene) : Text := (scene.lookup "IFS".toList).getD [' ', '\t', '\n']

/-- What stands between the arguments in one text. -/
def glue (scene : Scene) : Text := scene.separators.take 1

end Scene

namespace Play

/-- Says something in the name of the script. -/
def complain (text : Text) : Play Unit :=
  modify fun scene =>
    let speaker := match scene.speaker with
      | some name => name ++ ": ".toList
      | none => []
    (scene.writeTo 2 (toBytes (scene.name ++ ": ".toList ++ Decimal.print scene.line ++ ": ".toList
      ++ speaker ++ text ++ ['\n']))).1

/-- Gives up with a complaint. -/
def fail {α : Type} (text : Text) : Play α := do
  complain text
  modify fun scene => { scene with status := 2 }
  throw .failed

def setStatus (status : Nat) : Play Unit := modify fun scene => { scene with status := status }

def print (text : Text) : Play Unit :=
  modify fun scene =>
    let (scene, written) := scene.writeTo 1 (toBytes text)
    { scene with unwritten := scene.unwritten || !written }

/-- Prints on the error stream. -/
def printError (text : Text) : Play Unit :=
  modify fun scene => (scene.writeTo 2 (toBytes text)).1

/-- Gives a variable a value, unless it is constant. -/
def assign (name value : Text) : Play Unit := do
  let scene ← get
  match scene.bindings.lookup name with
  | some old =>
    if old.constant then fail (name ++ ": is read only".toList)
    let exported := old.exported || scene.isSet 'a'
    set (scene.bind name { old with value := some value, exported := exported })
  | none => set (scene.bind name ⟨some value, scene.isSet 'a', false⟩)

end Play

end CommandShell.Script
