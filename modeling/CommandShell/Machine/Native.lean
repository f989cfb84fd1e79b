import CommandShell.Machine.Environment
import CommandShell.Machine.Filing
import CommandShell.Machine.Listing
import CommandShell.Script.Run

/-!
What the programs do that every machine has.
-/

set_option autoImplicit false

namespace CommandShell

namespace Machine

/-- The path of the working directory. -/
def workingPath (machine : Machine) : Path :=
  if machine.working.isEmpty then [Path.slash]
  else machine.working.flatMap (Path.slash :: ·)

/-- The machine as a program sees it that is called. -/
def ofCall (call : Script.Call) : Machine := ⟨call.files, call.working, call.environment⟩

end Machine

namespace Task

/-- Whether a text is a time to sleep: digits, maybe with a point, and maybe a unit. -/
def isInterval (operand : Bytes) : Bool :=
  let text := Utf8.lossy operand
  let text := if text.getLast?.any ['s', 'm', 'h', 'd'].contains then text.dropLast else text
  text.any Char.isDigit && text.all (fun c => c.isDigit || c = '.') && text.count '.' ≤ 1

/-- Sleeps. -/
def sleep (operands : List Bytes) : Work Unit := do
  let wrong := operands.filter (!isInterval ·)
  if operands.isEmpty then complainOfUse "missing operand".toList
  for operand in wrong do
    complain ("invalid time interval ".toList ++ escapedName operand)
  if !wrong.isEmpty then hint

/-- Prints a file; a dash stands for the input. -/
def concatenateOne (path : Path) : Work Unit := do
  let task ← get
  let shown := shownName path
  let isInput := path = [0x2D]
  let opened : Except FileSystem.WalkFault (Shared × Option Channel) :=
    if isInput then .ok (task.toShared, task.channel? 0)
    else (task.openToRead task.channels task.working path).map fun (shared, channel) =>
      (shared, some channel)
  match opened with
  | .error fault => complainOfWalk shown fault
  | .ok (shared, channel) =>
    match shared.remaining channel with
    | .error fault => complain (shown ++ ": ".toList ++ fault.reason)
    | .ok [] => return
    | .ok content =>
      if shared.sameFile channel (task.channel? 1) then
        complain (shown ++ ": input file is output file".toList)
      else
        set { task with toShared := shared.leave channel [] }
        print content

/-- Prints files one after the other. -/
def concatenate (paths : List Path) : Work Unit := do
  let paths := if paths.isEmpty then [[0x2D]] else paths
  let task ← get
  if (task.channel? 1).isNone then complain "standard output: Bad file descriptor".toList
  else
    paths.forM concatenateOne
    if paths.contains [0x2D] && (task.channel? 0).isNone then
      complain "closing standard input: Bad file descriptor".toList

/-- Whether an argument of `echo` consists of options. -/
def isEchoOption : Bytes → Bool
  | 0x2D :: b :: letters => (b :: letters).all fun b => b = 0x6E || b = 0x65 || b = 0x45
  | _ => false

/-- Prints its arguments. -/
def echo (operands : List Bytes) : Work Unit :=
  let options := (operands.takeWhile isEchoOption).flatMap (·.drop 1)
  let shown := [0x20].intercalate (operands.dropWhile isEchoOption)
  let escapes := (options.filter (· ≠ 0x6E)).getLast? = some 0x65
  let (text, goesOn) :=
    if escapes then Script.unescape (shown.length + 1) (Script.ofBytes shown)
    else (Script.ofBytes shown, true)
  print (Script.toBytes text ++ (if options.contains 0x6E || !goesOn then [] else [0x0A]))

/-- Prints the path of the working directory. -/
def printWorking (operands : List Bytes) : Work Unit := do
  if !operands.isEmpty then
    let code := (← get).code
    complain "ignoring non-option arguments".toList
    modify fun task => { task with code := code }
  print ((Machine.ofCall (← get).toCall).workingPath ++ [0x0A])

end Task

namespace Script.Call

/-- Says why nothing is done, and fails. -/
def refuse (call : Call) (refusal : Environment.Refusal) (code : Nat) : Performance :=
  let work : Work Unit := do
    refusal.messages.forM Task.complain
    if refusal.hinted then Task.hint
    Task.failWith code
  Task.run 125 work call

/-- Runs a program in another environment, or shows that. -/
def inEnvironment (call : Call) (run : Native → Call → Performance) : Performance :=
  match Environment.plan call.environment call.arguments.tail with
  | .error refusal => call.refuse refusal 125
  | .ok plan =>
    match plan.command with
    | [] => Task.run 125 (Task.print (Environment.shown plan)) call
    | program :: _ =>
      let moved : Except FileSystem.WalkFault Location :=
        match plan.directory with
        | none => .ok call.working
        | some path =>
          match call.files.reach call.working path with
          | .ok (place, node) => if node.isDirectory then .ok place else .error .notDirectory
          | .error fault => .error fault
      match moved with
      | .error fault =>
        let what := "cannot change directory to ".toList
          ++ Task.quotedName (plan.directory.getD []) ++ ": ".toList
        call.refuse ⟨[what ++ (ExecFault.ofWalk fault).reason], false⟩ 125
      | .ok working =>
        let moved := { call with environment := plan.environment, working := working }
        match (Machine.ofCall moved).find program plan.command with
        | .ok (native, arguments) => run native { moved with arguments := arguments }
        | .error fault =>
          let name := Task.escapedName program ++ ": ".toList
          let hints :=
            if fault = .noEntry && program.any Environment.isGap then
              ["use -[v]S to pass options in shebang lines".toList]
            else []
          call.refuse ⟨(name ++ fault.reason) :: hints, false⟩ (if fault = .noEntry then 127 else 126)

/-- The first of some files that can be started. What cannot be started is passed over. -/
def firstStarted (call : Call) (fault : ExecFault) :
    List Path → Except ExecFault (Native × List Bytes)
  | [] => .error fault
  | choice :: rest =>
    match (Machine.ofCall call).imageOf choice call.arguments with
    | .ok found => .ok found
    | .error .badFormat =>
      .ok (.shell, Utf8.encode "/bin/sh".toList :: choice :: call.arguments.tail)
    | .error other => firstStarted call (if other.isAbsence then fault else other) rest

/-- How a script takes it that a program cannot be started. -/
def refusal (fault : ExecFault) : Refused :=
  ⟨if fault.isAbsence || fault = .tooManyLinks || fault = .nameTooLong then 127 else 126,
    if fault.isAbsence then "not found".toList else fault.reason⟩

end Script.Call

namespace Native

/-- What a native program does. `depth` bounds how deep programs may start programs. -/
def perform (depth : Nat) (native : Native) (call : Script.Call) : Performance :=
  match depth with
  | 0 => call.exiting 126
  | depth + 1 =>
    let operands := call.arguments.tail
    match native with
    | .succeed => call.exiting 0
    | .fail => call.exiting 1
    | .sleep => Task.run 1 (Task.sleep operands) call
    | .echo => Task.run 1 (Task.echo operands) call
    | .concatenate => Task.run 1 (Task.concatenate operands) call
    | .whereAmI => Task.run 1 (Task.printWorking operands) call
    | .makeDirectories => Task.perform 1 Task.makeDirectories call
    | .touch => Task.perform 1 Task.touch call
    | .remove => Task.perform 1 Task.remove call
    | .removeDirectories => Task.perform 1 Task.removeDirectories call
    | .move => Task.perform 1 Task.move call
    | .copy => Task.perform 1 Task.copy call
    | .link => Task.perform 1 Task.link call
    | .setModes => Task.setModes call
    | .list => Task.perform 2 Task.list call
    | .baseName => Task.perform 1 Task.baseName call
    | .directoryNames => Task.perform 1 Task.directoryNames call
    | .readLinks => Task.perform 1 Task.readLinks call
    | .environment => call.inEnvironment (perform depth)
    | .shell =>
      Script.performShell (fun inner =>
        match inner.firstStarted .noEntry inner.choices with
        | .ok (native, arguments) =>
          .ok (perform depth native { inner with arguments := arguments })
        | .error fault => .error (Script.Call.refusal fault)) call

end Native

end CommandShell
