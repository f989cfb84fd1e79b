import CommandShell.Machine.Task

/-!
The arguments of `env`: how the environment is to be changed, and what is to be run in it.
-/

set_option autoImplicit false

namespace CommandShell.Environment

/-- Why `env` does nothing: what it says, and whether it reminds of its usage. -/
structure Refusal where
  messages : List Text
  hinted : Bool

def isGap (b : UInt8) : Bool := b = 0x20 || (0x09 ≤ b && b ≤ 0x0D)

/-! ## Splitting an argument into many -/

/-- The quotes that a byte stands in. -/
inductive Quotes
  | none
  | single
  | double
  deriving DecidableEq

/-- The arguments made so far. -/
structure Splitting where
  /-- The arguments that are complete, the last one first. -/
  done : List Bytes
  /-- The argument that is being made, in reverse. -/
  current : Option Bytes

namespace Splitting

def add (splitting : Splitting) (bytes : Bytes) : Splitting :=
  { splitting with current := some (bytes.reverse ++ splitting.current.getD []) }

/-- Ends an argument, if there is one. -/
def cut (splitting : Splitting) : Splitting :=
  match splitting.current with
  | some current => ⟨current.reverse :: splitting.done, none⟩
  | none => splitting

def all (splitting : Splitting) : List Bytes := splitting.cut.done.reverse

end Splitting

/-- The variable named behind a dollar sign, and what follows it. -/
def expansion? (bytes : Bytes) : Option (Bytes × Bytes) :=
  let isStart (b : UInt8) : Bool := (Char.ofNat b.toNat).isAlpha || b = 0x5F
  let isPart (b : UInt8) : Bool := (Char.ofNat b.toNat).isAlphanum || b = 0x5F
  match bytes with
  | 0x7B :: first :: rest =>
    let name := first :: rest.takeWhile isPart
    match rest.dropWhile isPart with
    | 0x7D :: rest => if isStart first then some (name, rest) else none
    | _ => none
  | _ => none

/-- What a backslash makes of the byte behind it. -/
def escaped? (b : UInt8) : Option UInt8 :=
  match Char.ofNat b.toNat with
  | '\x22' | '#' | '$' | '\x27' | '\\' => some b
  | 'f' => some 0x0C
  | 'n' => some 0x0A
  | 'r' => some 0x0D
  | 't' => some 0x09
  | 'v' => some 0x0B
  | _ => none

/-- Splits a text at its gaps, but for those in quotes. `fuel` bounds its length. -/
def split (environment : List (Text × Bytes)) (fuel : Nat) (quotes : Quotes) (made : Splitting)
    (bytes : Bytes) : Except Text (List Bytes) :=
  match fuel, bytes with
  | 0, _ => .ok made.all
  | _, [] =>
    if quotes = .none then .ok made.all else .error "no terminating quote in -S string".toList
  | fuel + 1, b :: rest =>
    let plain := split environment fuel quotes (made.add [b]) rest
    if b = 0x27 && quotes ≠ .double then
      split environment fuel (if quotes = .single then .none else .single) (made.add []) rest
    else if b = 0x22 && quotes ≠ .single then
      split environment fuel (if quotes = .double then .none else .double) (made.add []) rest
    else if isGap b && quotes = .none then split environment fuel quotes made.cut rest
    else if b = 0x23 && made.current.isNone then
      if quotes = .none then .ok made.all else .error "no terminating quote in -S string".toList
    else if b = 0x5C then
      match rest with
      | [] =>
        if quotes = .single then plain
        else .error "invalid backslash at end of string in -S".toList
      | next :: rest =>
        if quotes = .single && next ≠ 0x5C && next ≠ 0x27 then plain
        else if next = 0x5F then
          if quotes = .double then split environment fuel quotes (made.add [0x20]) rest
          else split environment fuel quotes made.cut rest
        else if next = 0x63 then
          if quotes = .double then
            .error "'\\c' must not appear in double-quoted -S string".toList
          else .ok made.all
        else
          match escaped? next with
          | some b => split environment fuel quotes (made.add [b]) rest
          | none =>
            .error ("invalid sequence '\\".toList ++ Utf8.lossy [next] ++ "' in -S".toList)
    else if b = 0x24 && quotes ≠ .single then
      match expansion? rest with
      | some (name, rest) =>
        match environment.lookup (Utf8.lossy name) with
        | some value => split environment fuel quotes (made.add value) rest
        | none => split environment fuel quotes made rest
      | none =>
        .error ("only $\x7bVARNAME\x7d expansion is supported, error at: ".toList
          ++ Utf8.lossy bytes)
    else plain

/-! ## Options -/

def table : Operands.Table :=
  ⟨['i', '0', 'v'], ['u', 'C', 'S'], [("ignore-environment", 'i'), ("null", '0'), ("unset", 'u'),
    ("chdir", 'C'), ("default-signal", 'D'), ("ignore-signal", 'I'), ("block-signal", 'B'),
    ("debug", 'v'), ("split-string", 'S')]⟩

/-- The letters of an option before a gap. -/
def beforeGap : Bytes → Bytes
  | [] => []
  | b :: rest =>
    if isGap b then [b]
    else if table.letters.contains (Char.ofNat b.toNat) then b :: beforeGap rest
    else []

/-- Reads options up to the first operand. What is split is read in its place. `fuel` bounds the number
of arguments. -/
def readOptions (environment : List (Text × Bytes)) (fuel : Nat) (arguments : List Bytes) :
    Except Refusal Operands :=
  let misused {α : Type} : Except Text α → Except Refusal α :=
    Except.mapError fun message => ⟨[message], true⟩
  match fuel, arguments with
  | 0, _ | _, [] => .ok ⟨[], arguments⟩
  | fuel + 1, argument :: rest => do
    let goOn (options : List (Char × Bytes)) (rest : List Bytes) : Except Refusal Operands := do
      let rest ←
        match options.getLast? with
        | some ('S', text) =>
          match split environment (text.length + 1) .none ⟨[], none⟩ text with
          | .ok words => pure (words ++ rest)
          | .error message => throw ⟨[message], false⟩
        | _ => pure rest
      let later ← readOptions environment fuel rest
      return { later with options := options ++ later.options }
    match argument with
    | [0x2D, 0x2D] => return ⟨[], rest⟩
    | 0x2D :: 0x2D :: name =>
      let (option, rest) ← misused (Operands.readLong table rest name)
      goOn [option] rest
    | 0x2D :: b :: letters =>
      match (beforeGap (b :: letters)).getLast?.filter isGap with
      | some gap =>
        throw ⟨["invalid option -- '".toList ++ Utf8.lossy [gap] ++ ['\x27'],
          "use -[v]S to pass options in shebang lines".toList], true⟩
      | none =>
        let (options, rest) ← misused (Operands.readLetters table rest (b :: letters))
        goOn options rest
    | _ => return ⟨[], argument :: rest⟩

/-! ## The environment -/

/-- An environment in which a variable has a value. -/
def assign (environment : List (Text × Bytes)) (assignment : Bytes) : List (Text × Bytes) :=
  let name := Utf8.lossy (assignment.takeWhile (· ≠ 0x3D))
  let value := (assignment.dropWhile (· ≠ 0x3D)).tail
  if (environment.lookup name).isSome then
    environment.map fun (other, old) => (other, if other = name then value else old)
  else environment ++ [(name, value)]

/-- An environment without some variables. Their names must be such. -/
def unset (environment : List (Text × Bytes)) :
    List Bytes → Except Refusal (List (Text × Bytes))
  | [] => .ok environment
  | name :: rest =>
    if name.isEmpty || name.contains 0x3D then
      .error ⟨["cannot unset ".toList ++ Task.escapedName name ++ ": Invalid argument".toList], false⟩
    else unset (environment.filter (·.1 ≠ Utf8.lossy name)) rest

/-- What `env` is to do. -/
structure Plan where
  environment : List (Text × Bytes)
  /-- The directory to work in. -/
  directory : Option Path
  /-- Variables are shown with a NUL behind each. -/
  nulls : Bool
  /-- The program that is to be run, with its arguments. -/
  command : List Bytes

/-- Reads the arguments of `env`. -/
def plan (environment : List (Text × Bytes)) (arguments : List Bytes) : Except Refusal Plan := do
  let operands ← readOptions environment 1000 arguments
  let (isCleared, rest) := match operands.operands with
    | [0x2D] :: rest => (true, rest)
    | rest => (false, rest)
  let unwanted := operands.options.filterMap fun (option, name) =>
    if option = 'u' then some name else none
  let left ←
    if isCleared || operands.has 'i' then pure [] else unset environment unwanted
  let isAssignment (argument : Bytes) : Bool := argument.contains 0x3D
  let plan : Plan :=
    { environment := (rest.takeWhile isAssignment).foldl assign left
      directory := operands.value? 'C'
      nulls := operands.has '0'
      command := rest.dropWhile isAssignment }
  if plan.directory.isSome && plan.command.isEmpty then
    throw ⟨["must specify command with --chdir (-C)".toList], true⟩
  if plan.nulls && !plan.command.isEmpty then
    throw ⟨["cannot specify --null (-0) with command".toList], true⟩
  return plan

/-- The lines, or other pieces, that show an environment. -/
def shown (plan : Plan) : Bytes :=
  plan.environment.flatMap fun (name, value) =>
    Utf8.encode name ++ 0x3D :: value ++ [if plan.nulls then 0x00 else 0x0A]

end CommandShell.Environment
