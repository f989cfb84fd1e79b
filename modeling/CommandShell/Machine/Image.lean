import CommandShell.Machine.Basic
import CommandShell.SearchPath
import CommandShell.Text.Decimal

/-!
Finding what a program's name and arguments come down to: the file, the interpreters that its first
line and theirs name, and the native program behind them all.
-/

set_option autoImplicit false

namespace CommandShell

/-- Why the machine does not start a program. -/
inductive ExecFault
  | noEntry
  | argumentsTooLong
  | badFormat
  /-- No file was tried at all. -/
  | noChild
  | accessDenied
  | notDirectory
  | nameTooLong
  | tooManyLinks
  deriving DecidableEq

namespace ExecFault

def reason : ExecFault → Text
  | .noEntry => "No such file or directory".toList
  | .argumentsTooLong => "Argument list too long".toList
  | .badFormat => "Exec format error".toList
  | .noChild => "No child processes".toList
  | .accessDenied => "Permission denied".toList
  | .notDirectory => "Not a directory".toList
  | .nameTooLong => "File name too long".toList
  | .tooManyLinks => "Too many levels of symbolic links".toList

def number : ExecFault → Nat
  | .noEntry => 2
  | .argumentsTooLong => 7
  | .badFormat => 8
  | .noChild => 10
  | .accessDenied => 13
  | .notDirectory => 20
  | .nameTooLong => 36
  | .tooManyLinks => 40

def message (fault : ExecFault) : Text :=
  fault.reason ++ " (os error ".toList ++ Decimal.print fault.number ++ [')']

/-- Whether the file is not there. -/
def isAbsence : ExecFault → Bool
  | .noEntry | .notDirectory => true
  | _ => false

end ExecFault

def ExecFault.ofWalk : FileSystem.WalkFault → ExecFault
  | .noEntry => .noEntry
  | .notDirectory => .notDirectory
  | .tooManyLinks => .tooManyLinks
  | .nameTooLong => .nameTooLong

/-- The first line of a script: the program that is to read it, and an argument for that. -/
structure Interpreter where
  program : Path
  argument : Option Bytes

namespace Interpreter

/-- How much of a file is looked at. -/
def window : Nat := 256

def isGap (b : UInt8) : Bool := b = 0x20 || b = 0x09

def trimEnd (line : Bytes) : Bytes := (line.reverse.dropWhile isGap).reverse

/-- The stretch up to a gap or a NUL. -/
def untilGap (line : Bytes) : Bytes := line.takeWhile fun b => !isGap b && b ≠ 0

/-- Reads what follows `#!`. Without a line feed in sight the program's name must end in sight,
so that no name is cut short; then a gap behind it makes an argument, be it empty. -/
def parse (content : Bytes) : Option Interpreter :=
  let seen := (content ++ List.replicate window 0).take window
  match seen with
  | 0x23 :: 0x21 :: rest =>
    let line :=
      if rest.contains 0x0A then some (rest.takeWhile (· ≠ 0x0A))
      else
        let name := rest.dropWhile isGap
        if (untilGap name).length < name.length then some rest.dropLast else none
    line.bind fun line =>
      let named := (trimEnd line).dropWhile isGap
      let program := untilGap named
      if named.isEmpty then none
      else
        let after := named.drop program.length
        let argument := (after.dropWhile isGap).takeWhile (· ≠ 0)
        some ⟨program, if after.head?.any isGap then some argument else none⟩
  | _ => none

end Interpreter

namespace Machine

/-- The greatest length of an argument, and of a variable with its name. -/
def argumentLimit : Nat := 131071

/-- How many interpreters may stand one behind the other. -/
def interpreterLimit : Nat := 6

/-- Whether the arguments and the variables are short enough for a program. -/
def mayPass (machine : Machine) (arguments : List Bytes) : Bool :=
  arguments.all (·.length ≤ argumentLimit) &&
    machine.environment.all fun (name, value) =>
      (Utf8.encode name).length + 1 + value.length ≤ argumentLimit

/-- The native program that a file comes down to, with its arguments, its own name the first. The
last interpreter that is looked for must be there, although it is one too many. -/
def image (machine : Machine) (nesting : Nat) (program : Path) (arguments : List Bytes) :
    Except ExecFault (Native × List Bytes) := do
  let node ←
    match machine.files.reach machine.working program with
    | .ok (_, node) => Except.ok node
    | .error fault => Except.error (ExecFault.ofWalk fault)
  match node with
  | .file mode content =>
    if !mode.executable then throw .accessDenied
    if !machine.mayPass arguments then throw .argumentsTooLong
    match nesting with
    | 0 => throw .tooManyLinks
    | nesting + 1 =>
      match Native.ofContent? content with
      | some native => return (native, arguments)
      | none =>
        match Interpreter.parse content with
        | none => throw .badFormat
        | some interpreter =>
          if interpreter.program.isEmpty then throw .accessDenied
          image machine nesting interpreter.program
            (interpreter.program :: interpreter.argument.toList ++ program :: arguments.tail)
  | _ => throw .accessDenied

def imageOf (machine : Machine) (program : Path) (arguments : List Bytes) :
    Except ExecFault (Native × List Bytes) :=
  machine.image interpreterLimit program arguments

/-- Where programs are looked for without a PATH variable. -/
def defaultPath : Bytes := Utf8.encode "/bin:/usr/bin".toList

/-- The files a name without a slash may mean: one in each directory of the PATH. Of a PATH that
is as long as a path can be, directories that are too long are passed over; unless that is the last,
the name itself is tried instead. Of a name that is too long, no more is taken than shows that. -/
def choices (machine : Machine) (program : Path) : List Path :=
  let path := machine.path.getD defaultPath
  let directories := stretches (· == SearchPath.colon) path
  let isSkipped (directory : Path) : Bool :=
    path.length + 1 ≥ FileSystem.pathLimit && directory.length ≥ FileSystem.pathLimit
  let name := program.take (FileSystem.nameLimit + 1)
  let choice (directory : Path) : Path :=
    if directory.isEmpty || isSkipped directory then name else directory ++ Path.slash :: name
  directories.dropLast.map choice ++
    (directories.getLast?.filter (!isSkipped ·)).toList.map choice

/-- The first choice that can be started. A file that is not there or may not be started makes the
search go on. In the end it fails because of a file that may not be started if there was one, else as
it did the last time. -/
def firstImage (machine : Machine) (arguments : List Bytes) (denied : Bool) (fault : ExecFault) :
    List Path → Except ExecFault (Native × List Bytes)
  | [] => .error (if denied then .accessDenied else fault)
  | choice :: rest =>
    match machine.imageOf choice arguments with
    | .ok found => .ok found
    | .error fault =>
      if fault.isAbsence || fault = .accessDenied then
        firstImage machine arguments (denied || fault = .accessDenied) fault rest
      else .error fault

/-- What a program's name and arguments come down to. -/
def find (machine : Machine) (program : Path) (arguments : List Bytes) :
    Except ExecFault (Native × List Bytes) :=
  if program.isEmpty then .error .noEntry
  else if program.contains Path.slash then machine.imageOf program arguments
  else machine.firstImage arguments false .noChild (machine.choices program)

end Machine

end CommandShell
