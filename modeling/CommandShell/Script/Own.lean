import CommandShell.Script.Condition
import CommandShell.Script.Directory
import CommandShell.Script.Grammar
import CommandShell.Script.Input
import CommandShell.Script.Letters
import CommandShell.Script.Printing
import CommandShell.Script.Programs
import CommandShell.Script.Signals

/-!
The commands that scripts know themselves, but for those that run others.
-/

set_option autoImplicit false

namespace CommandShell.Script

namespace Own

/-- The commands without which a script does not go on when they are misused. -/
def special : List Text := Reader.fixedNames

def regular : List Text :=
  ["alias", "bg", "cd", "chdir", "command", "echo", "false", "fg", "getopts", "hash", "jobs", "kill",
    "printf", "pwd", "read", "test", "[", "true", "type", "ulimit", "umask", "unalias",
    "wait"].map String.toList

def isSpecial (name : Text) : Bool := special.contains name

def isKnown (name : Text) : Bool := isSpecial name || regular.contains name

/-- The commands whose arguments may be assignments. -/
def declares (name : Text) : Bool :=
  ["export".toList, "readonly".toList, "local".toList].contains name

end Own

namespace Play

def setAliases (aliases : List (Text × Text)) : Play Unit :=
  modify fun scene => { scene with source := { scene.source with aliases := aliases } }

/-- Says that there is no such alias. -/
def missAlias (word : String) (name : Text) : Play Nat := do
  printError (word.toList ++ ": ".toList ++ name ++ " not found\n".toList)
  return 1

def showAlias (name value : Text) : Play Nat := do
  print (name ++ '=' :: quoted value ++ ['\n'])
  return 0

/-- Sets aliases, or shows them. -/
def setAlias (argument : Text) : Play Nat := do
  let aliases := (← get).source.aliases
  let name := argument.take 1 ++ argument.tail.takeWhile (· ≠ '=')
  match argument.drop name.length with
  | '=' :: value =>
    if (aliases.lookup name).isSome then
      setAliases (aliases.map fun (other, old) => (other, if other = name then value else old))
    else setAliases (aliases ++ [(name, value)])
    return 0
  | _ =>
    match aliases.lookup argument with
    | some value => showAlias argument value
    | none => missAlias "alias" argument

def changeAliases (arguments : List Text) : Play Nat := do
  if arguments.isEmpty then
    let shown := (← get).source.aliases.mergeSort fun a b => Scene.rank a.1 ≤ Scene.rank b.1
    for (name, value) in shown do let _ ← showAlias name value
    return 0
  else
    let statuses ← arguments.mapM setAlias
    return statuses.foldl (· ||| ·) 0

/-- Takes aliases away. -/
def dropAliases (arguments : List Text) : Play Nat := do
  let (flags, names) ← takeFlags ['a'] arguments
  if !flags.isEmpty then
    setAliases []
    return 0
  let statuses ← names.mapM fun name => do
    let aliases := (← get).source.aliases
    if (aliases.lookup name).isNone then missAlias "unalias" name
    else
      setAliases (aliases.filter (·.1 ≠ name))
      return 0
  return statuses.foldl (· ||| ·) 0

/-- Tells what a name means as a command, at length or in short. -/
def describe (atLength : Bool) (name : Text) : Play Nat := do
  let scene ← get
  let tell (what short : Text) : Play Nat := do
    print ((if atLength then name ++ " is ".toList ++ what else short) ++ ['\n'])
    return 0
  if Token.keywords.contains name then tell "a shell keyword".toList name
  else if let some value := scene.source.aliases.lookup name then
    if atLength then tell ("an alias for ".toList ++ value) [] else do
      print "alias ".toList
      showAlias name value
  else if (scene.functions.lookup name).isSome then tell "a shell function".toList name
  else if Own.isSpecial name then tell "a special shell builtin".toList name
  else if Own.isKnown name then tell "a shell builtin".toList name
  else
    let isTracked := (scene.remembered.lookup name).isSome
    let place ← if isTracked then pure (scene.rememberedPlace? name) else findProgram name
    match place.bind fun place => (scene.choices name)[place]? with
    | some path => tell (if isTracked then "a tracked alias for ".toList ++ path else path) path
    | none =>
      if atLength then print (name ++ ": not found\n".toList)
      return 127

def describeAll (names : List Text) : Play Nat := do
  let statuses ← names.mapM (describe true)
  return statuses.foldl (· ||| ·) 0

/-- Answers `command` where it runs nothing. -/
def describeCommand (arguments : List Text) : Play Nat := do
  let (flags, names) ← takeFlags ['p', 'v', 'V'] arguments
  match names with
  | name :: _ => if flags.isEmpty then return 0 else describe (flags.getLast? = some 'V') name
  | [] => return 0

def echo (arguments : List Text) : Play Nat := do
  print (echoed arguments)
  return 0

def printf (arguments : List Text) : Play Nat := do
  let printed := formatted arguments
  printed.complaints.forM complain
  print printed.output
  return printed.status

def test (words : List Text) : Play Nat := do
  match Condition.answer (← get) words with
  | .ok holds => return if holds then 0 else 1
  | .error fault => fail fault.message

/-- Tells how a program has ended by a status, and says so if a signal has ended it. -/
def report : Termination → Play Nat
  | .exited code => return code.toNat
  | .signaled signal => do
    match Signal.farewell signal.toNat with
    | some text => printError (text ++ ['\n'])
    | none => pure ()
    return 128 + signal.toNat

/-- Waits for what was run in the background. -/
def wait (arguments : List Text) : Play Nat := do
  let statuses ← arguments.mapM fun argument => do
    match (← get).jobs.lookup (Decimal.print (← number argument)) with
    | some termination => report termination
    | none => return 127
  return statuses.getLast?.getD 0

/-- How many loops are meant. -/
def loopCount (arguments : List Text) : Play Nat := do
  match arguments.head? with
  | none => return min 1 (← get).loops
  | some count =>
    let n ← number count
    if n = 0 then fail ("Illegal number: ".toList ++ count)
    return min n (← get).loops

/-- Carries out a command that the script knows itself, and tells its status. -/
def perform (name : Text) (arguments : List Text) : Play Nat := do
  match String.ofList name with
  | "echo" => echo arguments
  | "printf" => printf arguments
  | "test" => test arguments
  | "[" =>
    if arguments.getLast? ≠ some [']'] then fail "missing ]".toList
    test arguments.dropLast
  | "false" => return 1
  | "cd" | "chdir" => changeDirectory arguments
  | "pwd" => printDirectory arguments
  | "read" => readLine arguments
  | "umask" => setMask arguments
  | "getopts" => getopts arguments
  | "type" => describeAll arguments
  | "command" => describeCommand arguments
  | "kill" => kill arguments
  | "wait" => wait arguments
  | "alias" => changeAliases arguments
  | "unalias" => dropAliases arguments
  | "hash" => rememberAll Own.isKnown arguments
  | "fg" | "bg" => fail "No current job".toList
  | "ulimit" =>
    print "unlimited\n".toList
    return 0
  | "times" =>
    print "0m0.000000s 0m0.000000s\n0m0.000000s 0m0.000000s\n".toList
    return 0
  | "export" => declareAll false name arguments
  | "readonly" => declareAll true name arguments
  | "local" => declareLocal arguments
  | "unset" => unset arguments
  | "set" => setAll arguments
  | "shift" => shift arguments
  | "trap" => trap arguments
  | "exit" =>
    match arguments.head? with
    | some status => throw (.exit (some (← number status)))
    | none => throw (.exit none)
  | "return" =>
    match arguments.head? with
    | some status => throw (.giveBack (← number status))
    | none => throw (.giveBack (← get).status)
  | "break" =>
    let count ← loopCount arguments
    if count = 0 then return 0 else throw (.leaveLoops count)
  | "continue" =>
    let count ← loopCount arguments
    if count = 0 then return 0 else throw (.nextRound count)
  | _ => return 0

end Play

end CommandShell.Script
