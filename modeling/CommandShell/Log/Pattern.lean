import CommandShell.Log.Pattern.Brackets
import CommandShell.Text.Alphanumeric
import CommandShell.Text.Numeric
import CommandShell.Text.Split

/-!
Regular expressions, as far as it matters whether a text is one. They are read for the values of
fields, in which no closing brace can stand, so a count in braces is never complete. Properties and
cases of characters beyond ASCII are not known to them.
-/

set_option autoImplicit false

namespace CommandShell.Pattern

/-- A part of a regular expression. -/
structure Part where
  depth : Nat
  /-- Whether it can be repeated; flags cannot. -/
  repeatable : Bool

/-- A group whose closing parenthesis is not yet read, or the whole. -/
structure Level where
  flags : Flags
  /-- The alternatives that are complete. -/
  branches : Row
  /-- The parts of the last alternative, but for the last one. -/
  parts : Row
  last : Option Part

namespace Level

def start (flags : Flags) : Level := ⟨flags, .empty, .empty, none⟩

/-- The parts of the last alternative. -/
def row (level : Level) : Row :=
  match level.last with
  | some part => level.parts.add part.depth
  | none => level.parts

def add (level : Level) (part : Part) : Level :=
  { level with parts := level.row, last := some part }

/-- Ends an alternative. -/
def split (level : Level) : Level :=
  ⟨level.flags, level.branches.add level.row.depth, .empty, none⟩

/-- Repeats the last part. -/
def repeatLast (level : Level) : Option Level :=
  level.last.bind fun part =>
    if part.repeatable then some { level with last := some ⟨part.depth + 1, true⟩ } else none

def depth (level : Level) : Nat := level.split.branches.depth

end Level

/-- Where the reading of a regular expression stands. -/
structure Reader where
  level : Level
  /-- The groups around it, the innermost first. -/
  outer : List Level
  names : List Text

namespace Reader

def start : Reader := ⟨.start .start, [], []⟩

def flags (reader : Reader) : Flags := reader.level.flags

/-- Steps behind a part. -/
def pass (reader : Reader) (part : Part) : Reader :=
  { reader with level := reader.level.add part }

/-- Steps behind a part with nothing nested in it. -/
def passSimple (reader : Reader) : Reader := reader.pass ⟨0, true⟩

/-- Steps into a group with flags of its own. -/
def enter (reader : Reader) (flags : Flags) : Reader :=
  ⟨.start flags, reader.level :: reader.outer, reader.names⟩

/-- Steps out of a group. -/
def leave (reader : Reader) : Option Reader :=
  match reader.outer with
  | [] => none
  | around :: outer => some ⟨around.add ⟨reader.level.depth + 1, true⟩, outer, reader.names⟩

/-- Whether the name of a group may begin with a character. -/
def canBeginName (c : Char) : Bool :=
  c = '_' || (CharTable.alphanumeric.contains c && !CharTable.numeric.contains c)

def canContinueName (c : Char) : Bool :=
  c ∈ ['_', '.', '[', ']'] || CharTable.alphanumeric.contains c

/-- Reads the name of a group up to its closing angle bracket. -/
def readName (reader : Reader) (t : Text) : Option (Reader × Text) :=
  let name := t.takeWhile (· ≠ '>')
  match name, t.drop name.length with
  | first :: others, '>' :: rest =>
    if canBeginName first && others.all canContinueName && !reader.names.contains name then
      some ({ reader with names := name :: reader.names }.enter reader.flags, rest)
    else none
  | _, _ => none

/-- Reads what follows an opening parenthesis. -/
def readGroup (reader : Reader) (t : Text) : Option (Reader × Text) :=
  match reader.flags.skip t with
  | '?' :: '<' :: '=' :: _ | '?' :: '<' :: '!' :: _ => none
  | '?' :: 'P' :: '<' :: rest | '?' :: '<' :: rest => reader.readName rest
  | '?' :: rest =>
    (Flags.read [] reader.flags rest).map fun (flags, last, rest) =>
      if last = ')' then
        (⟨{ reader.level.add ⟨0, false⟩ with flags := flags }, reader.outer, reader.names⟩, rest)
      else (reader.enter flags, rest)
  | rest => some (reader.enter reader.flags, rest)

/-- Reads the next part of a regular expression, which is not empty. -/
def read (reader : Reader) (c : Char) (rest : Text) : Option (Reader × Text) :=
  match c with
  | '(' => reader.readGroup rest
  | ')' => reader.leave.map (·, rest)
  | '|' => some ({ reader with level := reader.level.split }, rest)
  | '[' =>
    (Brackets.read reader.flags rest).map fun (depth, rest) => (reader.pass ⟨depth, true⟩, rest)
  | '?' | '*' | '+' =>
    reader.level.repeatLast.map fun level =>
      ({ reader with level := level }, if rest.head? = some '?' then rest.tail else rest)
  | '\x7b' => none
  | '\\' =>
    (Escape.read reader.flags rest).bind fun (escape, rest) =>
      if escape.isKnown reader.flags then some (reader.passSimple, rest) else none
  | '.' => if reader.flags.unicode then some (reader.passSimple, rest) else none
  | '^' | '$' => some (reader.passSimple, rest)
  | _ => if reader.flags.foldsUnicode then none else some (reader.passSimple, rest)

/-- Whether a whole text can be read. `fuel` bounds its parts. -/
def accepts (fuel : Nat) (reader : Reader) (t : Text) : Bool :=
  match fuel with
  | 0 => false
  | fuel + 1 =>
    match reader.flags.skip t with
    | [] => reader.outer.isEmpty && reader.level.depth ≤ nestLimit
    | c :: rest =>
      match reader.read c rest with
      | some (reader, rest) => accepts fuel reader rest
      | none => false

end Reader

/-- Whether a text is a regular expression. -/
def isRegular (t : Text) : Bool := Reader.accepts (t.length + 1) .start t

/-- Digits, maybe a point among them, and maybe an exponent. -/
def isDecimal (t : Text) : Bool :=
  let mantissa := t.takeWhile fun c => c.isDigit || c = '.'
  let digits := mantissa.filter (· ≠ '.')
  let isExponent : Bool :=
    match t.drop mantissa.length with
    | [] => true
    | e :: power =>
      let power := if power.head? = some '+' || power.head? = some '-' then power.tail else power
      (e = 'e' || e = 'E') && !power.isEmpty && power.all Char.isDigit
  !digits.isEmpty && mantissa.length ≤ digits.length + 1 && isExponent

/-- Whether a text is a number: one with a point and an exponent, or infinite, or none at all. -/
def isNumber (t : Text) : Bool :=
  let size := if t.head? = some '+' || t.head? = some '-' then t.tail else t
  isDecimal size || ["inf", "infinity", "nan"].contains (String.ofList (size.map Char.toLower))

/-- Whether a field can be compared with a value: with a number, or by a regular expression. -/
def isValue (t : Text) : Bool := isNumber t || isRegular t

end CommandShell.Pattern
