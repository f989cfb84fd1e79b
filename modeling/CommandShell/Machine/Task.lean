import CommandShell.Machine.Image
import CommandShell.Script.Scene

/-!
What programs that work on files have in common: how they read their arguments, what they print and
how they complain.
-/

set_option autoImplicit false

namespace CommandShell

namespace Script.Call

/-- Leaves everything as it is, and exits with a code. -/
def exiting (call : Call) (code : Nat) : Performance :=
  ⟨call.toShared, Termination.exitStatus code⟩

/-- Where a descriptor leads. -/
def channel? (call : Call) (descriptor : Nat) : Option Channel := call.channels.lookup descriptor

end Script.Call

/-- A program at work. -/
structure Task extends Script.Call where
  code : Nat
  /-- Something could not be printed. -/
  unprinted : Bool

/-- A part of a program's work. -/
abbrev Work := StateM Task

/-- Options with their values, and operands. -/
structure Operands where
  options : List (Char × Bytes)
  operands : List Bytes

namespace Operands

def has (operands : Operands) (option : Char) : Bool := operands.options.any (·.1 = option)

/-- The value of an option, the last one that is given. -/
def value? (operands : Operands) (option : Char) : Option Bytes :=
  operands.options.reverse.lookup option

/-- Which options a program has. -/
structure Table where
  letters : Text
  /-- The options that take a value. -/
  valued : Text
  /-- Long names of options. -/
  long : List (String × Char)

/-- Reads the letters of an argument. The value of an option is what follows its letter, or else the
next argument. -/
def readLetters (table : Table) (rest : List Bytes) :
    Bytes → Except Text (List (Char × Bytes) × List Bytes)
  | [] => .ok ([], rest)
  | b :: more =>
    let c := Char.ofNat b.toNat
    if table.valued.contains c then
      match more, rest with
      | [], [] => .error ("option requires an argument -- '".toList ++ [c, '\x27'])
      | [], value :: rest => .ok ([(c, value)], rest)
      | _, _ => .ok ([(c, more)], rest)
    else if table.letters.contains c then
      (readLetters table rest more).map fun (options, rest) => ((c, []) :: options, rest)
    else .error ("invalid option -- '".toList ++ [c, '\x27'])

/-- Reads a long option without its hyphens. Its name may be cut short. -/
def readLong (table : Table) (rest : List Bytes) (argument : Bytes) :
    Except Text ((Char × Bytes) × List Bytes) :=
  let name := argument.takeWhile (· ≠ 0x3D)
  let shown := "--".toList ++ Utf8.lossy name
  let fitting := table.long.filter fun (other, _) => name.isPrefixOf (Utf8.encode other.toList)
  let exact := fitting.filter fun (other, _) => name = Utf8.encode other.toList
  match exact ++ fitting with
  | [] =>
    .error ("unrecognized option '--".toList ++ Utf8.lossy argument ++ ['\x27'])
  | (other, letter) :: _ =>
    let quoted := "option '--".toList ++ other.toList ++ ['\x27']
    if exact.isEmpty && fitting.length > 1 then
      .error ("option '".toList ++ shown ++ "' is ambiguous; possibilities:".toList
        ++ fitting.flatMap fun (other, _) => " '--".toList ++ other.toList ++ ['\x27'])
    else if !table.valued.contains letter then
      if argument.contains 0x3D then .error (quoted ++ " doesn't allow an argument".toList)
      else .ok ((letter, []), rest)
    else if argument.contains 0x3D then .ok ((letter, argument.drop (name.length + 1)), rest)
    else
      match rest with
      | [] => .error (quoted ++ " requires an argument".toList)
      | value :: rest => .ok ((letter, value), rest)

/-- Reads arguments. Options may stand behind operands, but not behind two hyphens. `fuel` bounds
the number of arguments. -/
def read (table : Table) (fuel : Nat) (arguments : List Bytes) : Except Text Operands :=
  match fuel, arguments with
  | 0, _ | _, [] => .ok ⟨[], []⟩
  | fuel + 1, argument :: rest =>
    match argument with
    | [0x2D, 0x2D] => .ok ⟨[], rest⟩
    | 0x2D :: 0x2D :: name => do
      let (option, rest) ← readLong table rest name
      let later ← read table fuel rest
      return { later with options := option :: later.options }
    | 0x2D :: b :: letters => do
      let (options, rest) ← readLetters table rest (b :: letters)
      let later ← read table fuel rest
      return { later with options := options ++ later.options }
    | _ => do
      let later ← read table fuel rest
      return { later with operands := argument :: later.operands }

end Operands

namespace Task

/-- Whether a byte is a character that can be seen, or a space. -/
def isVisible (b : UInt8) : Bool := 0x20 ≤ b && b ≤ 0x7E

/-- The letter that stands behind a backslash for a control character, or the byte in octal. -/
def escape (b : UInt8) : Text :=
  match b.toNat with
  | 7 => ['\\', 'a']
  | 8 => ['\\', 'b']
  | 9 => ['\\', 't']
  | 10 => ['\\', 'n']
  | 11 => ['\\', 'v']
  | 12 => ['\\', 'f']
  | 13 => ['\\', 'r']
  | n => '\\' :: [n / 64, n / 8 % 8, n % 8].map Nat.digitChar

/-- What a user has given in a complaint, between quotes. What cannot be seen is escaped. -/
def escapedName (name : Bytes) : Text :=
  let one (b : UInt8) : Text :=
    if b = 0x27 || b = 0x5C then ['\\', Char.ofNat b.toNat]
    else if isVisible b then [Char.ofNat b.toNat]
    else escape b
  '\x27' :: name.flatMap one ++ ['\x27']

/-- Whether a character means the same between quotes of either kind. `first` and `lone` tell whether it
stands first, and whether it stands alone. -/
def isSteady (first lone : Bool) (c : Char) : Bool :=
  c.isAlphanum || [' ', '%', '+', ',', '-', '.', '/', ':', '@', ']', '_', '\x27'].contains c
    || (first && (c = '#' || c = '~')) || (lone && (c = '\x7b' || c = '\x7d'))

/-- What stands between the apostrophes around a file's name. `escaping` tells whether what was before
was escaped, which stands in quotes of its own. -/
def quoteBody (escaping : Bool) : Bytes → Text
  | [] => []
  | b :: rest =>
    if isVisible b then
      let shown := if b = 0x27 then "'\\''".toList else [Char.ofNat b.toNat]
      (if escaping && b ≠ 0x27 then ['\x27', '\x27'] else []) ++ shown ++ quoteBody false rest
    else (if escaping then [] else ['\x27', '$', '\x27']) ++ escape b ++ quoteBody true rest

/-- A file's name in a complaint, as it could be put in a script. A name with an apostrophe is looked
through twice, and the second time begins as the first has ended. -/
def quotedName (name : Bytes) : Text :=
  let isSteadyAt (entry : UInt8 × Nat) : Bool :=
    isSteady (entry.2 = 0) (name.length = 1) (Char.ofNat entry.1.toNat)
  if name.contains 0x27 && name.zipIdx.all isSteadyAt then
    '\x22' :: name.map (fun b => Char.ofNat b.toNat) ++ ['\x22']
  else
    let escaping := name.contains 0x27 && name.getLast?.any (!isVisible ·)
    '\x27' :: quoteBody escaping name ++ ['\x27']

/-- A file's name in a complaint: quoted if it holds more than plain characters. -/
def shownName (name : Bytes) : Text :=
  let isPlain (entry : UInt8 × Nat) : Bool :=
    let c := Char.ofNat entry.1.toNat
    c.isAlphanum || ['%', '+', ',', '-', '.', '/', '@', ']', '_'].contains c
      || (entry.2 ≠ 0 && (c = '#' || c = '~')) || (name.length ≠ 1 && (c = '\x7b' || c = '\x7d'))
  if name.zipIdx.all isPlain && !name.isEmpty then name.map fun b => Char.ofNat b.toNat
  else quotedName name

/-- Writes to a descriptor, and tells whether that can be done. -/
def write (descriptor : Nat) (bytes : Bytes) : Work Bool :=
  modifyGet fun task =>
    let (shared, written) := task.toShared.write (task.channel? descriptor) bytes
    (written, { task with toShared := shared })

def print (bytes : Bytes) : Work Unit := do
  let written ← write 1 bytes
  modify fun task => { task with unprinted := task.unprinted || !written }

def printLine (text : Text) : Work Unit := print (Utf8.encode (text ++ ['\n']))

/-- The name that a program goes by. -/
def ownName : Work Bytes := do return (← get).arguments.head?.getD []

/-- Fails, unless it has already failed in a worse way. -/
def failWith (code : Nat) : Work Unit := modify fun task => { task with code := max task.code code }

/-- Complains, so that the program will have failed. -/
def complain (text : Text) : Work Unit := do
  let _ ← write 2 ((← ownName) ++ Utf8.encode (": ".toList ++ text ++ ['\n']))
  failWith 1

/-- Reminds of how a program is asked for its usage. -/
def hint : Work Unit := do
  let _ ← write 2 (Utf8.encode "Try '".toList ++ (← ownName)
    ++ Utf8.encode " --help' for more information.\n".toList)

/-- Complains of the arguments. -/
def complainOfUse (text : Text) : Work Unit := do
  complain text
  hint

/-- Complains of a file that cannot be reached. -/
def complainOfWalk (what : Text) (fault : FileSystem.WalkFault) : Work Unit :=
  complain (what ++ ": ".toList ++ (ExecFault.ofWalk fault).reason)

def setFiles (files : FileSystem) : Work Unit :=
  modify fun task => { task with toShared := task.toShared.withFiles files }

/-- The place of a file. -/
def locate (ending : FileSystem.Ending) (path : Path) :
    Work (Except FileSystem.WalkFault Location) := do
  let task ← get
  return task.files.locate ending task.working path

/-- What is at the end of a path, links followed. -/
def reach (path : Path) : Work (Except FileSystem.WalkFault (Location × Node)) := do
  let task ← get
  return task.files.reach task.working path

def node? (place : Location) : Work (Option Node) := do return (← get).files.node? place

/-- Whether a path leads to a directory. -/
def isDirectory (path : Path) : Work Bool := do
  match ← reach path with
  | .ok (_, node) => return node.isDirectory
  | .error _ => return false

/-- The last name of a path. -/
def lastName (path : Path) : Bytes :=
  let trimmed := FileSystem.trimEnd path
  if trimmed.isEmpty then path.take 1
  else (trimmed.reverse.takeWhile (· ≠ Path.slash)).reverse

/-- A path without its last name. -/
def directoryName (path : Path) : Path :=
  let trimmed := FileSystem.trimEnd path
  let directory := trimmed.reverse.dropWhile (· ≠ Path.slash)
  if trimmed.isEmpty then path.take 1
  else if directory.isEmpty then [0x2E]
  else
    let shortened := FileSystem.trimEnd directory.reverse
    if shortened.isEmpty then [Path.slash] else shortened

/-- What a call comes to by some work. `misused` is the code of a program that cannot print what it
has to print. -/
def run (misused : Nat) (work : Work Unit) (call : Script.Call) : Performance :=
  let whole : Work Unit := do
    work
    if (← get).unprinted then
      complain "write error: Bad file descriptor".toList
      failWith misused
  let (_, task) := StateT.run whole ⟨call, 0, false⟩
  ⟨task.toShared, Termination.exitStatus task.code⟩

/-- What a call comes to by some work on its options and operands. `misused` is the code of a program
whose arguments cannot be read. -/
def perform (misused : Nat) (program : Operands.Table × (Operands → Work Unit)) (call : Script.Call) :
    Performance :=
  let arguments := call.arguments.tail
  run misused (match Operands.read program.1 (arguments.length + 1) arguments with
    | .ok operands => program.2 operands
    | .error fault => do
      complainOfUse fault
      failWith misused) call

end Task

end CommandShell
