import CommandShell.Script.Own
import CommandShell.Script.Redirection

/-!
Running a script: what it writes, and how it ends.
-/

set_option autoImplicit false

namespace CommandShell.Script

/-- How a statement is run. -/
structure Mode where
  /-- Something is made of its status, so that a failure does not end the script. -/
  tested : Bool
  /-- Nothing comes after it, so that a program may take the place of the script. -/
  last : Bool

namespace Mode

def plain : Mode := ⟨false, false⟩

/-- The mode of a part that others follow. -/
def inner (mode : Mode) : Mode := { mode with last := false }

/-- The mode of all that is left of a process to do. -/
def final (mode : Mode) : Mode := { mode with last := true }

def test : Mode := ⟨true, false⟩

end Mode

/-- Runs statements, and tells their statuses. -/
abbrev Runner := Mode → Statement → Play Nat

/-- How many rounds a loop may make. -/
def roundLimit : Nat := 100000

/-- How deep statements may stand in one another. -/
def depthLimit : Nat := 20000

/-- How deep functions may call one another. -/
def callLimit : Nat := 1000

namespace Play

variable (run : Runner)

/-- The lines of a text up to one of them. -/
def linesUpTo (line : Nat) (source : Source) : Text :=
  ((stretches (· == '\n') source.rest).take (line + 1 - source.line)).flatMap (· ++ ['\n'])

/-- Shows the text that has just been read, where that is asked for. -/
def showText (text : Text) : Play Unit := do
  if (← get).isSet 'v' then printError text

/-- Runs the lines of the text that is read. `fuel` bounds how many there are. -/
def runLines (mode : Mode) (isFile : Bool) (fuel : Nat) (status : Nat) : Play Nat :=
  match fuel with
  | 0 => return status
  | fuel + 1 => do
    let before := (← get).source
    match Reader.readLine.run before with
    | .error fault =>
      if isFile then showText (linesUpTo fault.line before)
      failFor fault
      return 2
    | .ok (statement, source) =>
      if isFile then showText (before.rest.take (before.rest.length - source.rest.length))
      modify fun scene => { scene with source := source }
      match statement with
      | none => return status
      | some .skip => runLines mode isFile fuel status
      | some statement =>
        let ended := source.held.any fun token => token matches .endOfFile
        let status ← run { mode with last := mode.last && ended } statement
        runLines mode isFile fuel status

/-- Runs a text as a script of its own in the same surroundings. -/
def runText (mode : Mode) (isFile : Bool) (text : Text) : Play Nat := do
  let outer := (← get).source
  modify fun scene => { scene with source := .start text outer.documents outer.aliases }
  try runLines run mode isFile (text.length + 1) 0
  finally modify fun scene =>
    { scene with
      source := { outer with documents := scene.source.documents, aliases := scene.source.aliases } }

/-- Does what is set for the signals that have come. -/
def react : Play Unit := do
  let scene ← get
  if scene.outerTraps.isNone && !scene.pending.isEmpty then
    set { scene with pending := [] }
    for signal in scene.pending do
      let _ ← runText run .plain false (((← get).traps.lookup signal).getD [])
      setStatus scene.status

/-- Plays to the end of a process. If the play asks for no status, that of the script is the one, or
the one that is set already. The end may be left to another program. -/
def ending (settled : Option Nat) (play : Play Nat) : Play (Nat ⊕ Termination) := do
  try return .inl (← play)
  catch
    | .exit (some status) | .giveBack status => return .inl status
    | .exit none => return .inl (settled.getD (← get).status)
    | .failed => return .inl 2
    | .leaveLoops _ | .nextRound _ => return .inl 0
    | .replaced termination => return .inr termination
    | .kill signal => throw (.kill signal)

/-- The end of a process that nothing can change any more. -/
def settle : Nat ⊕ Termination → Termination
  | .inl status => .exited (status % 256 : Nat)
  | .inr termination => termination

/-- Plays to the end of a process, and does what is set for that. -/
def conclude (play : Play Nat) : Play Termination := do
  match ← ending none play with
  | .inr termination => return termination
  | .inl status =>
    setStatus status
    match (← get).traps.lookup 0 with
    | none => return settle (.inl status)
    | some action =>
      modify fun scene => { scene with traps := scene.traps.filter (·.1 ≠ 0) }
      return settle (← ending status do
        let _ ← runText run .plain false action
        return status)

/-- Plays in a copy of the script's surroundings: the files and what was written remain. -/
def isolate (play : Play Nat) : Play Termination := do
  let outer ← get
  set { outer with
    outerTraps := some (outer.outerTraps.getD outer.traps)
    traps := outer.traps.filter (·.2.isEmpty) }
  try conclude run play
  finally modify fun inner =>
    { outer with toShared := inner.toShared, pending := inner.pending }

/-- What a statement prints, without the newlines at its end. -/
def substitute (statement : Statement) : Play Text := do
  let (scene, number) := (← get).withQueue []
  set scene
  let termination ← isolate run do
    lead 1 (some (.sink number))
    run Mode.plain.final statement
  let status ← report termination
  modify fun scene => { scene with outputStatus := some status }
  let printed := (ofBytes ((← get).queue number)).filter (· ≠ '\x00')
  return (printed.reverse.dropWhile (· = '\n')).reverse

/-- Plays, and tells whether nothing went wrong. -/
def attempt (play : Play Unit) : Play Bool := do
  try
    play
    return true
  catch
    | .failed => return false
    | stop => throw stop

/-! ## Loops -/

/-- Plays one round of a loop, and tells its status unless the loop is left. -/
def oneRound (play : Play Nat) : Play (Option Nat) := do
  try return some (← play)
  catch
    | .leaveLoops (count + 2) => throw (.leaveLoops (count + 1))
    | .leaveLoops _ => return none
    | .nextRound (count + 2) => throw (.nextRound (count + 1))
    | .nextRound _ => return some 0
    | stop => throw stop

def inLoop {α : Type} (play : Play α) : Play α := do
  let loops := (← get).loops
  modify fun scene => { scene with loops := loops + 1 }
  try play
  finally modify fun scene => { scene with loops := loops }

/-- Runs a statement for each of some words. -/
def runEach (mode : Mode) (name : Text) (body : Statement) (status : Nat) : List Text → Play Nat
  | [] => return status
  | word :: rest => do
    assign name word
    match ← oneRound (run mode body) with
    | some status => runEach mode name body status rest
    | none => return 0

/-- Runs the rounds of a loop. `fuel` bounds their number. -/
def runRounds (mode : Mode) (whileFailing : Bool) (test body : Statement) (fuel status : Nat) :
    Play Nat :=
  match fuel with
  | 0 => return status
  | fuel + 1 => do
    match ← oneRound (run .test test) with
    | none => return status
    | some answer =>
      if (answer = 0) = whileFailing then return status
      match ← oneRound (run mode body) with
      | some status => runRounds mode whileFailing test body fuel status
      | none => return 0

/-- Runs the first clause with a pattern that a text matches. -/
def runChoice (mode : Mode) (subject : Text) : List (List Word × Statement) → Play Nat
  | [] => return 0
  | (patterns, body) :: rest => do
    if ← patterns.anyM fun pattern => do
        return (← expandPattern (substitute run) pattern).covers subject
    then run mode body
    else runChoice mode subject rest

/-! ## Processes -/

/-- Finds the program that a statement begins with, so that it is remembered, where its name is put
plainly. -/
def remember (statement : Statement) : Play Unit := do
  match statement with
  | .simple _ _ (word :: _) _ =>
    match (Word.literal? word).filter isName with
    | some name =>
      if !Own.isKnown name && ((← get).functions.lookup name).isNone then
        let _ ← findProgram name
    | none => return
  | _ => return

/-- Runs the stages of a pipeline, each on what the one before has written. -/
def runStages (mode : Mode) (input : Option Channel) : List Statement → Play Nat
  | [] => return 0
  | [final] => do
    remember final
    report (← isolate run do
      input.forM fun channel => lead 0 (some channel)
      run mode.final final)
  | first :: rest => do
    remember first
    let (scene, number) := (← get).withQueue []
    set scene
    let termination ← isolate run do
      input.forM fun channel => lead 0 (some channel)
      lead 1 (some (.sink number))
      run mode.final first
    let _ ← report termination
    runStages mode (some (.source number)) rest

/-- Runs a statement in the background, where it finds no input. -/
def runBackground (statement : Statement) : Play Nat := do
  let termination ← isolate run do
    lead 0 (some .nowhere)
    run Mode.plain.final statement
  modify fun scene =>
    { scene with
      jobs := (Decimal.print (4243 + scene.jobs.length), termination) :: scene.jobs }
  return 0

/-- Runs a statement in a copy of the script's surroundings, or in its place if nothing follows. -/
def runIsolated (mode : Mode) (inner : Statement) (redirects : List Redirect) : Play Nat := do
  let redirected ← expandRedirects (substitute run) redirects
  let play : Play Nat := do
    redirectAll redirected
    run mode.final inner
  if mode.last && (← get).traps.isEmpty then play else report (← isolate run play)

/-! ## Commands -/

/-- Plays until a status is given back. -/
def untilReturn (play : Play Nat) : Play Nat := do
  try play
  catch
    | .giveBack status => return status
    | stop => throw stop

/-- Carries out a function. Its arguments are its own, and so are its loops. -/
def callFunction (mode : Mode) (body : Statement) (arguments : List Text) : Play Nat := do
  let outer ← get
  if outer.hidden.length ≥ callLimit then
    fail ("Maximum function recursion depth (".toList ++ Decimal.print callLimit
      ++ ") reached".toList)
  set { outer with arguments := arguments, loops := 0, hidden := [] :: outer.hidden }
  try untilReturn (run mode.inner body)
  finally modify fun scene =>
    let restored := (scene.hidden.head?.getD []).foldl
      (fun scene (name, binding) => scene.restoreBinding name binding) scene
    { restored with
      arguments := outer.arguments, loops := outer.loops, hidden := scene.hidden.tail }

/-- Starts a program. The first so many files that its name may mean are passed over. -/
def start (stage : Stage) (skipped : Nat) (arguments : List Text) :
    Play (Except Refused Termination) := do
  let scene ← get
  let name := arguments.head?.getD []
  let call : Call :=
    { toShared := scene.toShared
      choices := ((scene.choices name).drop skipped).map toBytes
      arguments := arguments.map toBytes
      environment := scene.exports.map fun (name, value) => (name, toBytes value)
      working := scene.working
      mask := scene.mask
      channels := scene.channels }
  match stage call with
  | .error refused =>
    complain (name ++ ": ".toList ++ refused.complaint)
    return .error refused
  | .ok performance =>
    modify fun scene => { scene with toShared := performance.toShared }
    return .ok (Termination.ofStatus performance.status)

/-- Runs a program, in the place of the script if nothing follows. -/
def runProgram (stage : Stage) (mode : Mode) (arguments : List Text) : Play Nat := do
  let name := arguments.head?.getD []
  let place ← findProgram name
  match ← start stage (place.getD 0) arguments with
  | .error refused =>
    return if place.isNone && !name.contains '/' then 127 else refused.status
  | .ok termination =>
    if mode.last && (← get).traps.isEmpty then throw (.replaced termination)
    report termination

/-- Puts a program in the place of the script. -/
def replace (stage : Stage) (arguments : List Text) : Play Nat := do
  if arguments.isEmpty then return 0
  match ← start stage 0 arguments with
  | .error refused => throw (.exit (some refused.status))
  | .ok termination => throw (.replaced termination)

/-- Runs the script in a file in the same surroundings. -/
def includeFile (arguments : List Text) : Play Nat := do
  let (_, operands) ← takeFlags [] arguments
  match operands with
  | [] => return 0
  | name :: _ =>
    let scene ← get
    let path ←
      if name.contains '/' then pure name
      else match scene.program? name with
        | some path => pure path
        | none => fail (name ++ ": not found".toList)
    match scene.files.reach scene.working (toBytes path) with
    | .error fault =>
      fail ("cannot open ".toList ++ path ++ ": ".toList ++ reason "No such file" fault)
    | .ok (_, node) =>
      let text := match node with
        | .file _ content => ofBytes content
        | _ => []
      modify fun scene => { scene with speaker := some path }
      untilReturn (runText run .plain true text)

/-- Carries out a command that the script knows itself. What goes wrong ends the script only in a
special one. -/
def runOwn (stage : Stage) (mode : Mode) (isSpecial : Bool) (name : Text) (arguments : List Text) :
    Play Nat := do
  let outer := (← get).speaker
  modify fun scene => { scene with speaker := some name, unwritten := false }
  let command : Play Nat :=
    match String.ofList name with
    | "eval" => runText run mode.inner false ([' '].intercalate arguments)
    | "." => includeFile run arguments
    | "exec" => replace stage arguments
    | _ => perform name arguments
  let guarded : Play Nat := do
    try command
    catch
      | .failed => if isSpecial then throw .failed else return 2
      | stop => throw stop
  try
    let status ← guarded
    if (← get).unwritten then
      complain (name ++ ": I/O error".toList)
      return status ||| 1
    else return status
  finally modify fun scene => { scene with speaker := outer, unwritten := false }

/-- Expands words up to the first that comes to something. -/
def expandFirst : List Word → Play (List Text × List Word)
  | [] => return ([], [])
  | word :: rest => do
    match ← expand (substitute run) word with
    | [] => expandFirst rest
    | texts => return (texts, rest)

/-- Expands a word that may be an assignment, whose value is not split. -/
def expandDeclared (word : Word) : Play (List Text) := do
  match Reader.assignment? word with
  | some (name, value) =>
    return [name ++ '=' :: (← expandWhole (substitute run) true value)]
  | none => expand (substitute run) word

/-- What is run by `command`, if it runs anything. -/
def commanded : List Text → Option (List Text)
  | [] => none
  | ['-', '-'] :: rest => if rest.isEmpty then none else some rest
  | ('-' :: c :: letters) :: rest => if (c :: letters).all (· = 'p') then commanded rest else none
  | arguments => some arguments

/-- A command without `command` in front of it, and whether there was one. `fuel` bounds how many
there are. -/
def withoutCommand (fuel : Nat) (arguments : List Text) : List Text × Bool :=
  match fuel, arguments with
  | fuel + 1, name :: rest =>
    if name = "command".toList then
      match commanded rest with
      | some inner => ((withoutCommand fuel inner).1, true)
      | none => (arguments, false)
    else (arguments, false)
  | _, _ => (arguments, false)

/-- The words of a command. -/
def expandCommand (words : List Word) : Play (List Text) := do
  let (texts, rest) ← expandFirst run words
  let plain := (texts ++ rest.filterMap Word.literal?).dropWhile (· = "command".toList)
  let declares := plain.head?.any Own.declares
  let others ← rest.mapM fun word =>
    if declares then expandDeclared run word else expand (substitute run) word
  return texts ++ others.flatten

/-- Shows a command before it is carried out, where that is asked for. -/
def showCommand (channels : List (Nat × Channel)) (words : List Text) : Play Unit := do
  let scene ← get
  if scene.isSet 'x' then
    let sign ←
      match Reader.asQuotation ((scene.lookup "PS4".toList).getD []) with
      | some word => expandWhole (substitute run) false word
      | none => pure []
    modify fun scene =>
      let shown := { scene with channels := channels }
      let written := (shown.writeTo 2 (toBytes (sign ++ [' '].intercalate words ++ ['\n']))).1
      { written with channels := scene.channels }

/-- Gives variables their values, and tells what they are. -/
def assignAll (assignments : List (Text × Word)) (exported : Bool) : Play (List Text) :=
  assignments.mapM fun (name, word) => do
    let value ← expandWhole (substitute run) true word
    assign name value
    if exported then
      modify fun scene =>
        { scene with
          bindings := scene.bindings.map fun (other, binding) =>
            (other, if other = name then { binding with exported := true } else binding) }
    return name ++ '=' :: value

/-- Plays, and puts back some variables afterwards. -/
def keepingVariables {α : Type} (names : List Text) (play : Play α) : Play α := do
  let outer ← get
  try play
  finally modify fun scene =>
    names.foldl (fun scene name => scene.restoreBinding name (outer.bindings.lookup name)) scene

/-- What a command comes to. -/
inductive Target
  | nothing
  | function (body : Statement)
  | own (isSpecial : Bool)
  | program

/-- What the name of a command means. -/
def target (name : Option Text) (noFunction isSpecial : Bool) : Play Target := do
  match name with
  | none => return .nothing
  | some name =>
    match (← get).functions.lookup name with
    | some body => if !noFunction then return .function body
    | none => pure ()
    return if Own.isKnown name then .own isSpecial else .program

/-- Carries out a command: its words are expanded first, then it is redirected, then variables are
given their values. -/
def runSimple (stage : Stage) (mode : Mode) (assignments : List (Text × Word)) (words : List Word)
    (redirects : List Redirect) : Play Nat := do
  modify fun scene => { scene with outputStatus := none }
  let texts ← expandCommand run words
  let (command, noFunction) := withoutCommand texts.length texts
  let isSpecial := !noFunction && command.head?.any Own.isSpecial
  let target ← target command.head? noFunction isSpecial
  let redirected ← expandRedirects (substitute run) redirects
  let channels := (← get).channels
  let isExec := command.head? = some "exec".toList
  let play : Play Nat := do
    if !(← attempt (redirectAll redirected)) then
      if isSpecial then throw .failed else return 2
    let ownVariables := !texts.isEmpty && !isSpecial
    let carryOut : Play Nat := do
      let assigned ← assignAll run assignments (ownVariables || (isExec && command.length > 1))
      showCommand run channels (assigned ++ texts)
      match target with
      | .nothing => return (← get).outputStatus.getD 0
      | .function body => callFunction run mode body command.tail
      | .own isSpecial => runOwn run stage mode isSpecial (command.head?.getD []) command.tail
      | .program => runProgram stage mode command
    if ownVariables then keepingVariables (assignments.map (·.1)) carryOut else carryOut
  if isExec then play else keepingChannels play

/-! ## Statements -/

/-- Runs a statement by what runs those inside of it. -/
def runStatement (stage : Stage) (mode : Mode) (statement : Statement) : Play Nat := do
  if (← get).isSet 'n' then return 0
  /- Sets the status, and ends the script at a failure if that is asked for. -/
  let finish (isChecked : Bool) (play : Play Nat) : Play Nat := do
    let status ← play
    setStatus status
    react run
    if isChecked && status ≠ 0 && !mode.tested && (← get).isSet 'e' then throw (.exit (some status))
    return status
  let atLine (line : Nat) (play : Play Nat) : Play Nat := do
    modify fun scene => { scene with line := line }
    play
  match statement with
  | .skip => return 0
  | .simple line assignments words redirects =>
    finish true (atLine line (runSimple run stage mode assignments words redirects))
  | .pipeline stages => finish true (runStages run mode none stages)
  | .isolated line inner redirects =>
    finish true (atLine line (runIsolated run mode inner redirects))
  | .background inner => finish false (runBackground run inner)
  | .sequence first second => do
    let _ ← run mode.inner first
    finish false (run mode second)
  | .both first second => finish false do
    let status ← run .test first
    if status = 0 then run mode second else return status
  | .either first second => finish false do
    let status ← run .test first
    if status = 0 then return status else run mode second
  | .negated inner => finish false do
    return if (← run .test inner) = 0 then 1 else 0
  | .redirected line inner redirects => finish false <| atLine line do
    let redirected ← expandRedirects (substitute run) redirects
    keepingChannels do
      if ← attempt (redirectAll redirected) then run mode.inner inner else return 2
  | .conditional test yes no => finish false do
    if (← run .test test) = 0 then run mode yes else run mode no
  | .loop whileFailing test body =>
    finish false (inLoop (runRounds run mode.inner whileFailing test body roundLimit 0))
  | .each line name words body => finish false <| atLine line do
    let words ← match words with
      | some words => expandAll (substitute run) words
      | none => pure (← get).arguments
    inLoop (runEach run mode.inner name body 0 words)
  | .choice line subject clauses => finish false <| atLine line do
    runChoice run mode (← expandWhole (substitute run) false subject) clauses
  | .define name body =>
    modify fun scene =>
      { scene with functions := (name, body) :: scene.functions.filter (·.1 ≠ name) }
    setStatus 0
    return 0

/-- Runs statements. Nested too deep, they leave a script no memory to go on with. -/
def runner (stage : Stage) : Nat → Runner
  | 0 => fun _ _ => throw (.kill 11)
  | depth + 1 => fun mode statement => runStatement (runner stage depth) stage mode statement

/-! ## Scripts -/

/-- Finds the text of the script that options and arguments name, and runs it. -/
def runShell (stage : Stage) (arguments : List Text) : Play Nat := do
  let run := runner stage depthLimit
  let (rest, _) ← setOptions true arguments.length arguments
  let scene ← get
  if scene.isSet 'c' then
    match rest with
    | [] => fail "-c requires an argument".toList
    | text :: rest =>
      set { scene with name := rest.head?.getD scene.name, arguments := rest.tail }
      runText run Mode.plain.final false text
  else
    match rest with
    | path :: others =>
      if scene.isSet 's' then
        set { scene with arguments := rest }
        runInput run
      else
        match scene.files.reach scene.working (toBytes path) with
        | .error fault =>
          fail ("cannot open ".toList ++ path ++ ": ".toList ++ reason "No such file" fault)
        | .ok (_, node) =>
          set { scene with name := path, arguments := others }
          runText run .plain true (match node with
            | .file _ content => ofBytes content
            | _ => [])
    | [] =>
      modify (·.withOption true 's')
      runInput run
where
  /-- Runs the script on the input. -/
  runInput (run : Runner) : Play Nat := do
    let scene ← get
    let text := ofBytes (scene.input)
    set (scene.leaveInput [])
    runText run .plain true text

end Play

/-- The variables a script begins with. -/
def startingBindings (environment : List (Text × Bytes)) : List (Text × Binding) :=
  let inherited := (environment.filter fun (name, _) => isName name).map fun (name, value) =>
    (name, (⟨some (ofBytes value), true, false⟩ : Binding))
  let own : List (Text × Text) :=
    [("PS1", "# "), ("PS2", "> "), ("PS4", "+ "), ("PPID", "4241")].map fun (name, value) =>
      (name.toList, value.toList)
  let path := ("PATH".toList, defaultPath)
  let missing := (path :: own).filter fun (name, _) => (inherited.lookup name).isNone
  let fixed := [("IFS".toList, [' ', '	', '
']), ("OPTIND".toList, ['1'])]
  (inherited.filter fun (name, _) => (fixed.lookup name).isNone) ++
    (missing ++ fixed).map fun (name, value) => (name, ⟨some value, false, false⟩)

/-- The surroundings in which a script begins. -/
def Scene.start (call : Call) : Scene :=
  let bindings := startingBindings call.environment
  let own := pathOf call.working
  let inherited := ((bindings.lookup "PWD".toList).bind (·.value)).filter fun path =>
    path.head? = some '/' &&
      match call.files.reach [] (toBytes path) with
      | .ok (place, _) => place = call.working
      | .error _ => false
  let logical := inherited.getD own
  let scene : Scene :=
    { toShared := call.toShared
      name := (call.arguments.map ofBytes).head?.getD []
      arguments := []
      bindings := bindings
      hidden := []
      functions := []
      remembered := []
      options := []
      status := 0
      outputStatus := none
      line := 0
      source := .start [] [] []
      letterPlace := (1, 0)
      loops := 0
      speaker := none
      channels := call.channels
      unwritten := false
      working := call.working
      logical := logical
      mask := call.mask
      traps := []
      outerTraps := none
      pending := []
      jobs := [] }
  scene.bind "PWD".toList ⟨some logical, true, false⟩

/-- What the shell does that is called so. -/
def performShell (stage : Stage) (call : Call) : Performance :=
  let run := Play.runner stage depthLimit
  let play := Play.conclude run (Play.runShell stage (call.arguments.tail.map ofBytes))
  let (ended, after) := play.run.run (Scene.start call)
  let status :=
    match ended with
    | .ok (.exited code) => Termination.exitStatus code.toNat
    | .ok (.signaled signal) => Termination.signalStatus signal.toNat
    | .error (.kill signal) => Termination.signalStatus signal
    | .error _ => Termination.exitStatus 2
  ⟨after.toShared, status⟩

end CommandShell.Script
