import CommandShell.Script.Variables

/-!
Reading a line of input into variables.
-/

set_option autoImplicit false

namespace CommandShell.Script

/-- The first line of an input: its characters, with a mark on those that stand behind a backslash.
The flag tells whether its end has come before that of the input. -/
def spanLine (raw : Bool) : Bytes → List (Char × Bool) × Bool × Bytes
  | [] => ([], false, [])
  | 0x0A :: rest => ([], true, rest)
  | 0x00 :: rest => spanLine raw rest
  | 0x5C :: b :: rest =>
    if raw then
      let (line, ended, rest) := spanLine raw (b :: rest)
      (('\\', false) :: line, ended, rest)
    else if b = 0x0A then spanLine raw rest
    else
      let (line, ended, rest) := spanLine raw rest
      ((Char.ofNat b.toNat, true) :: line, ended, rest)
  | b :: rest =>
    let (line, ended, rest) := spanLine raw rest
    ((Char.ofNat b.toNat, false) :: line, ended, rest)

namespace InputLine

def isBlank (separators : Text) (c : Char × Bool) : Bool :=
  !c.2 && separators.contains c.1 && [' ', '\t', '\n'].contains c.1

def isSeparator (separators : Text) (c : Char × Bool) : Bool := !c.2 && separators.contains c.1

/-- Drops what stands between two values: blanks, and one separator that is none. -/
def dropGap (separators : Text) (line : List (Char × Bool)) : List (Char × Bool) :=
  let rest := line.dropWhile (isBlank separators)
  match rest with
  | c :: others =>
    if isSeparator separators c then others.dropWhile (isBlank separators) else rest
  | [] => []

/-- The last value: all that is left, without blanks at its end, and without a gap there if there
is nothing but one more value. -/
def last (separators : Text) (line : List (Char × Bool)) : Text :=
  let value := line.takeWhile (!isSeparator separators ·)
  let rest := dropGap separators (line.drop value.length)
  let whole :=
    if rest.isEmpty then value
    else (line.reverse.dropWhile (isBlank separators)).reverse
  whole.map (·.1)

/-- The values for a number of variables. -/
def values (separators : Text) : Nat → List (Char × Bool) → List Text
  | 0, _ => []
  | 1, line => [last separators line]
  | count + 2, line =>
    let value := line.takeWhile (!isSeparator separators ·)
    value.map (·.1) :: values separators (count + 1)
      (dropGap separators (line.drop value.length))

end InputLine

namespace Play

/-- Takes the options of `read`: whether a backslash is a character as any other. -/
def readFlags : List Text → Play (Bool × List Text)
  | ['-', '-'] :: rest => return (false, rest)
  | ['-', 'p'] :: _ :: rest => readFlags rest
  | ['-', 'p'] :: [] => fail "No arg for -p option".toList
  | ('-' :: 'p' :: _ :: _) :: rest => readFlags rest
  | ['-', 'r'] :: rest => return (true, (← readFlags rest).2)
  | ('-' :: c :: _) :: rest => do
    if c = 'r' then return (true, rest)
    fail ("Illegal option -".toList ++ [c])
  | rest => return (false, rest)

/-- Reads a line into variables. -/
def readLine (arguments : List Text) : Play Nat := do
  let (raw, names) ← readFlags arguments
  if names.isEmpty then fail "arg count".toList
  let scene ← get
  let (line, ended, rest) := spanLine raw (scene.input)
  set (scene.leaveInput rest)
  let separators := scene.separators
  let line := line.dropWhile (InputLine.isBlank separators)
  for (name, value) in names.zip (InputLine.values separators names.length line) do
    checkName name
    assign name value
  return if ended then 0 else 1

end Play

end CommandShell.Script
