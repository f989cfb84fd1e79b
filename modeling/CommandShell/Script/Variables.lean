import CommandShell.NameSet
import CommandShell.Script.Scene

/-!
The commands on variables, arguments and options.
-/

set_option autoImplicit false

namespace CommandShell.Script

/-- A text between apostrophes. Those inside it stand between quotation marks. -/
def quoted (t : Text) : Text := '\x27' :: quotedRest false t
where
  quotedRest (amongMarks : Bool) : Text → Text
    | [] => [if amongMarks then '\x22' else '\x27']
    | '\x27' :: rest =>
      (if amongMarks then ['\x27'] else ['\x27', '\x22', '\x27']) ++ quotedRest true rest
    | c :: rest => (if amongMarks then ['\x22', '\x27', c] else [c]) ++ quotedRest false rest

/-- A name, and the value behind an equals sign if there is one. -/
def cutAssignment (t : Text) : Text × Option Text :=
  let name := t.takeWhile (· ≠ '=')
  (name, (t.drop name.length).tail?)

/-- The options with their names, in the order in which they are listed. -/
def optionNames : List (Text × Option Char) :=
  [("errexit", some 'e'), ("noglob", some 'f'), ("ignoreeof", some 'I'), ("interactive", some 'i'),
    ("monitor", some 'm'), ("noexec", some 'n'), ("stdin", some 's'), ("xtrace", some 'x'),
    ("verbose", some 'v'), ("vi", some 'V'), ("emacs", some 'E'), ("noclobber", some 'C'),
    ("allexport", some 'a'), ("notify", some 'b'), ("nounset", some 'u'), ("privileged", some 'p'),
    ("nolog", none), ("debug", none)].map fun (name, letter) => (name.toList, letter)

namespace Scene

/-- The lines that list variables in the order of their names, each behind a word. -/
def listing (scene : Scene) (word : Text) (isListed : Binding → Bool) : Text :=
  let listed := scene.bindings.filter fun (_, binding) => isListed binding
  (NameSet.ofList (listed.map (·.1))).flatMap fun name =>
    word ++ name ++ (((scene.lookup name).map fun value => '=' :: quoted value).getD []) ++ ['\n']

def withOption (scene : Scene) (on : Bool) (letter : Char) : Scene :=
  let others := scene.options.filter (· ≠ letter)
  { scene with options := if on then letter :: others else others }

end Scene

namespace Play

/-- Takes options off arguments; what is no option, or stands behind two dashes, is left. -/
def takeFlags (known : Text) : List Text → Play (Text × List Text)
  | ['-', '-'] :: rest => return ([], rest)
  | ('-' :: c :: letters) :: rest => do
    match (c :: letters).find? (!known.contains ·) with
    | some unknown => fail ("Illegal option -".toList ++ [unknown])
    | none =>
      let (others, rest) ← takeFlags known rest
      return ((c :: letters) ++ others, rest)
  | rest => return ([], rest)

def checkName (name : Text) : Play Unit := do
  if !isName name then fail (name ++ ": bad variable name".toList)

/-- Marks a variable as one that is handed on, or as one that stays as it is; it may be given a
value first. -/
def declare (constant : Bool) (argument : Text) : Play Unit := do
  let (name, value) := cutAssignment argument
  match value with
  | some value =>
    checkName name
    assign name value
  | none => if ((← get).bindings.lookup name).isNone then checkName name
  modify fun scene =>
    let old := (scene.bindings.lookup name).getD ⟨none, false, false⟩
    scene.bind name
      (if constant then { old with constant := true } else { old with exported := true })

/-- Declares variables, or lists those that are declared. -/
def declareAll (constant : Bool) (word : Text) (arguments : List Text) : Play Nat := do
  let (flags, names) ← takeFlags ['p'] arguments
  if names.isEmpty || flags.contains 'p' then
    print ((← get).listing (word ++ [' ']) fun binding =>
      if constant then binding.constant else binding.exported)
  else names.forM (declare constant)
  return 0

/-- Remembers a variable until the present function is over. -/
def hide (name : Text) : Play Unit :=
  modify fun scene =>
    match scene.hidden with
    | [] => scene
    | inner :: others =>
      { scene with hidden := ((name, scene.bindings.lookup name) :: inner) :: others }

/-- Makes variables a function's own. -/
def declareLocal (arguments : List Text) : Play Nat := do
  if (← get).hidden.isEmpty then fail "not in a function".toList
  for argument in arguments do
    let (name, value) := cutAssignment argument
    checkName name
    hide name
    match value with
    | some value => assign name value
    | none =>
      modify fun scene =>
        if (scene.bindings.lookup name).isSome then scene
        else scene.bind name ⟨none, false, false⟩
  return 0

/-- Takes variables or functions away. -/
def unset (arguments : List Text) : Play Nat := do
  let (flags, names) ← takeFlags ['v', 'f'] arguments
  for name in names do
    if flags.getLast? = some 'f' then
      modify fun scene => { scene with functions := scene.functions.filter (·.1 ≠ name) }
    else
      checkName name
      if ((← get).bindings.lookup name).any (·.constant) then fail (name ++ ": is read only".toList)
      modify (·.unbind name)
  return 0

/-- Lists the options, for readers or in the form of commands. -/
def listOptions (forReaders : Bool) : Play Unit := do
  let scene ← get
  if forReaders then print "Current option settings\n".toList
  for (name, letter) in optionNames do
    let isOn := letter.any scene.isSet
    if forReaders then
      print (name ++ List.replicate (16 - name.length) ' ' ++ (if isOn then "on\n" else "off\n").toList)
    else
      print ("set ".toList ++ [if isOn then '-' else '+', 'o', ' '] ++ name ++ ['\n'])

/-- Sets or takes away an option. A few can be given to the program only. -/
def setOption (starting on : Bool) (letter : Char) : Play Unit := do
  if Scene.optionLetters.contains letter || (starting && ['c', 'l'].contains letter) then
    modify fun scene => scene.withOption on letter
  else fail ("Illegal option ".toList ++ [if on then '-' else '+', letter])

def setNamedOption (on : Bool) (name : Text) : Play Unit := do
  match optionNames.lookup name with
  | some letter => letter.forM fun letter => modify fun scene => scene.withOption on letter
  | none => fail ("Illegal option ".toList ++ [if on then '-' else '+', 'o', ' '] ++ name)

/-- Sets the options that letters name; the name of one may be the next argument. -/
def setLetters (starting on : Bool) : Text → List Text → Play (List Text)
  | [], rest => return rest
  | 'o' :: letters, [] => do
    listOptions on
    setLetters starting on letters []
  | 'o' :: letters, name :: rest => do
    setNamedOption on name
    setLetters starting on letters rest
  | letter :: letters, rest => do
    setOption starting on letter
    setLetters starting on letters rest

/-- Sets the options that arguments begin with. What is left are to be the arguments of the script,
if there is anything or the flag says so. `fuel` bounds how many arguments there are. -/
def setOptions (starting : Bool) (fuel : Nat) (arguments : List Text) : Play (List Text × Bool) :=
  match fuel, arguments with
  | 0, _ => return (arguments, false)
  | _ + 1, ['-'] :: rest => do
    modify fun scene => (scene.withOption false 'x').withOption false 'v'
    return (rest, false)
  | _ + 1, ['-', '-'] :: rest => return (rest, true)
  | fuel + 1, ('-' :: letters) :: rest => do
    setOptions starting fuel (← setLetters starting true letters rest)
  | fuel + 1, ('+' :: letters) :: rest => do
    setOptions starting fuel (← setLetters starting false letters rest)
  | _ + 1, rest => return (rest, false)

/-- Lists the variables, or sets options and arguments. -/
def setAll (arguments : List Text) : Play Nat := do
  if arguments.isEmpty then
    print ((← get).listing [] fun binding => binding.value.isSome)
  else
    let (rest, replaced) ← setOptions false arguments.length arguments
    if replaced || !rest.isEmpty then
      modify fun scene => { scene with arguments := rest, letterPlace := (1, 0) }
      modify fun scene => scene.bind "OPTIND".toList ⟨some ['1'], false, false⟩
  return 0

/-- A number that is written in digits. -/
def number (t : Text) : Play Nat := do
  match Decimal.parse t with
  | .ok n =>
    if t.all Char.isDigit && n ≤ 2147483647 then return n
    else fail ("Illegal number: ".toList ++ t)
  | .error _ => fail ("Illegal number: ".toList ++ t)

/-- Drops arguments of the script. -/
def shift (arguments : List Text) : Play Nat := do
  let count ← match arguments.head? with
    | some count => number count
    | none => pure 1
  let scene ← get
  if count > scene.arguments.length then fail "can't shift that many".toList
  set { scene with arguments := scene.arguments.drop count }
  return 0

end Play

end CommandShell.Script
