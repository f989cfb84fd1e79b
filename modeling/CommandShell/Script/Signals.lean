import CommandShell.Script.Variables

/-!
Signals: their names, the command that sends them, and what a script does on them.
-/

set_option autoImplicit false

namespace CommandShell.Script

namespace Signal

/-- The signals with names of their own, from the first one on. -/
def names : List Text :=
  ["HUP", "INT", "QUIT", "ILL", "TRAP", "ABRT", "BUS", "FPE", "KILL", "USR1", "SEGV", "USR2",
    "PIPE", "ALRM", "TERM", "16", "CHLD", "CONT", "STOP", "TSTP", "TTIN", "TTOU", "URG", "XCPU", "XFSZ",
    "VTALRM", "PROF", "WINCH", "IO", "PWR", "SYS", "32", "33"].map String.toList ++
  "RTMIN".toList :: (List.range 15).map (fun n => "RTMIN+".toList ++ Decimal.print (n + 1)) ++
  (List.range 14).map (fun n => "RTMAX-".toList ++ Decimal.print (14 - n)) ++ ["RTMAX".toList]

/-- The name of a signal; the end of a script counts as signal zero. -/
def name (signal : Nat) : Text :=
  if signal = 0 then "EXIT".toList else names[signal - 1]?.getD []

/-- The signal with a number or a name, whatever its case. -/
def ofText? (t : Text) : Option Nat :=
  if t.all Char.isDigit then (Decimal.parse t).toOption.filter (· ≤ names.length)
  else
    (List.range (names.length + 1)).find? fun signal => name signal = t.map Char.toUpper

/-- What is said of a program that a signal has ended. -/
def farewell (signal : Nat) : Option Text :=
  let texts :=
    ["Hangup", "", "Quit", "Illegal instruction", "Trace/breakpoint trap", "Aborted", "Bus error",
      "Floating point exception", "Killed", "User defined signal 1", "Segmentation fault",
      "User defined signal 2", "", "Alarm clock", "Terminated", "Stack fault", "Child exited",
      "Continued", "Stopped (signal)", "Stopped", "Stopped (tty input)", "Stopped (tty output)",
      "Urgent I/O condition", "CPU time limit exceeded", "File size limit exceeded",
      "Virtual timer expired", "Profiling timer expired", "Window changed", "I/O possible",
      "Power failure", "Bad system call"].map String.toList
  if signal ≥ 34 then some ("Real-time signal ".toList ++ Decimal.print (signal - 34))
  else (texts[signal - 1]?).filter (!·.isEmpty)

/-- Whether a signal ends no program that does nothing about it. -/
def isHarmless (signal : Nat) : Bool := [0, 17, 18, 19, 20, 21, 22, 23, 28].contains signal

end Signal

namespace Play

/-- Sends the script a signal. It is ended by it, unless it does something on it. -/
def signalSelf (signal : Nat) : Play Unit := do
  let scene ← get
  let traps := scene.outerTraps.getD scene.traps
  match (traps.lookup signal).filter fun _ => signal ≠ 0 && signal ≠ 9 with
  | some action =>
    if !action.isEmpty then set { scene with pending := scene.pending ++ [signal] }
  | none => if !Signal.isHarmless signal then throw (.kill signal)

def killUsage : Text :=
  "Usage: kill [-s sigspec | -signum | -sigspec] [pid | job]... or\nkill -l [exitstatus]".toList

/-- What is asked for with the options of `kill`. -/
inductive KillRequest
  | list
  | send (signal : Nat)

/-- Takes the options of `kill` off its arguments. -/
def killRequest (arguments : List Text) : Play (KillRequest × List Text) := do
  match arguments with
  | ('-' :: letters) :: rest =>
    match if letters.isEmpty then none else Signal.ofText? letters with
    | some signal => return (.send signal, rest)
    | none =>
      match letters, rest with
      | 'l' :: _, next :: _ =>
        if next.head? = some '-' then fail ("Illegal option ".toList ++ next.take 2)
        return (.list, rest)
      | 'l' :: _, [] => return (.list, rest)
      | ['s'], [] => fail "No arg for -s option".toList
      | ['s'], name :: rest =>
        match Signal.ofText? name with
        | some signal => return (.send signal, rest)
        | none => fail ("invalid signal number or name: ".toList ++ name)
      | 's' :: name, rest =>
        match Signal.ofText? name with
        | some signal => return (.send signal, rest)
        | none => fail ("invalid signal number or name: ".toList ++ name)
      | ['-'], rest => return (.send 15, rest)
      | c :: _, _ => fail ("Illegal option -".toList ++ [c])
      | [], _ => return (.send 15, arguments)
  | _ => return (.send 15, arguments)

/-- Sends a signal to a process. -/
def killOne (signal : Nat) (target : Text) : Play Nat := do
  if target.head? = some '%' then fail ("No such job: ".toList ++ target)
  let number ← number (if target.head? = some '-' then target.tail else target)
  if Decimal.print number = ownId then
    signalSelf signal
    return 0
  else if ((← get).jobs.lookup (Decimal.print number)).isSome then return 0
  else
    complain "No such process\n".toList
    return 1

/-- Sends signals, or lists them. -/
def kill (arguments : List Text) : Play Nat := do
  match ← killRequest arguments with
  | (.list, []) =>
    print "0\n".toList
    for name in Signal.names do print (name ++ ['\n'])
    return 0
  | (.list, shown :: _) =>
    let status ← number shown
    let signal := if status > 128 then status - 128 else status
    if 0 < signal && signal ≤ Signal.names.length then
      print (Signal.name signal ++ ['\n'])
      return 0
    else fail ("invalid signal number or exit status: ".toList ++ shown)
  | (.send _, []) => fail killUsage
  | (.send signal, targets) =>
    let statuses ← targets.mapM (killOne signal)
    return if statuses.all (· = 0) then 0 else 1

/-- Lists the traps. -/
def listTraps : Play Unit := do
  for signal in List.range (Signal.names.length + 1) do
    match (← get).traps.lookup signal with
    | some action =>
      print ("trap -- ".toList ++ quoted action ++ ' ' :: Signal.name signal ++ ['\n'])
    | none => pure ()

/-- Sets what is done on some signals, or lists that. -/
def trap (arguments : List Text) : Play Nat := do
  let (_, arguments) ← takeFlags [] arguments
  match arguments with
  | [] =>
    listTraps
    return 0
  | [only] => setTraps none [only]
  | action :: names =>
    if !action.isEmpty && action.all Char.isDigit && (Signal.ofText? action).isSome then
      setTraps none arguments
    else setTraps (if action = ['-'] then none else some action) names
where
  setTraps (action : Option Text) : List Text → Play Nat
    | [] => return 0
    | name :: names => do
      match Signal.ofText? name with
      | none =>
        printError ("trap: ".toList ++ name ++ ": bad trap\n".toList)
        return 1
      | some signal =>
        modify fun scene =>
          let others := scene.traps.filter (·.1 ≠ signal)
          { scene with
            traps := (action.map fun action => (signal, action)).toList ++ others }
        setTraps action names

end Play

end CommandShell.Script
