import CommandShell.Files
import CommandShell.Script.Arithmetic
import CommandShell.Script.Scene

/-!
Conditions: what the command `test` answers to its arguments.
-/

set_option autoImplicit false

namespace CommandShell.Script.Condition

/-- What a word of a condition is. -/
inductive Role
  | unary
  | binary
  | conjunction
  | disjunction
  | negation
  | opening
  | closing
  deriving DecidableEq

def unaryOperators : List Text :=
  ["-r", "-w", "-x", "-e", "-f", "-d", "-c", "-b", "-p", "-u", "-g", "-k", "-s", "-t", "-z", "-n", "-h",
    "-O", "-G", "-L", "-S"].map String.toList

def binaryOperators : List Text :=
  ["=", "!=", "<", ">", "-eq", "-ne", "-ge", "-gt", "-le", "-lt", "-nt", "-ot", "-ef"].map
    String.toList

def role? (t : Text) : Option Role :=
  if unaryOperators.contains t then some .unary
  else if binaryOperators.contains t then some .binary
  else
    match String.ofList t with
    | "-a" => some .conjunction
    | "-o" => some .disjunction
    | "!" => some .negation
    | "(" => some .opening
    | ")" => some .closing
    | _ => none

/-- What is wrong with a condition. -/
inductive Fault
  | argumentExpected (operator : Text)
  | unexpected (word : Text)
  | parenthesisExpected
  | notNumber (word : Text)

def Fault.message : Fault → Text
  | .argumentExpected operator => operator ++ ": argument expected".toList
  | .unexpected word => word ++ ": unexpected operator".toList
  | .parenthesisExpected => "closing paren expected".toList
  | .notNumber word => "Illegal number: ".toList ++ word

/-- The role of the first word. A unary operator is an operand where nothing follows, or a binary
operator and its operand. -/
def frontRole (words : List Text) : Option Role :=
  match words with
  | [] => none
  | first :: rest =>
    match role? first, rest with
    | some .unary, [] => none
    | some .unary, [_] => some .unary
    | some .unary, second :: _ => if role? second = some .binary then none else some .unary
    | some .opening, [] => none
    | role, _ => role

/-- A decimal number, maybe with a sign and blanks. -/
def number (t : Text) : Except Fault Int :=
  let inner := t.dropWhile Arithmetic.isSpace
  let (negative, digits) :=
    match inner with
    | '-' :: digits => (true, digits)
    | '+' :: digits => (false, digits)
    | digits => (false, digits)
  match Arithmetic.spanDigits 10 digits with
  | some (n, rest) =>
    if (rest.dropWhile Arithmetic.isSpace).isEmpty then .ok (if negative then -(n : Int) else n)
    else .error (.notNumber t)
  | none => .error (.notNumber t)

/-- What a unary operator says of its operand. -/
def unary (scene : Scene) (operator operand : Text) : Except Fault Bool :=
  let path := toBytes operand
  let node : Option Node :=
    match scene.files.reach scene.working path with
    | .ok (_, node) => some node
    | .error _ => none
  let isLink : Bool :=
    match scene.files.locate ⟨false, false⟩ scene.working path with
    | .ok place => (scene.files.node? place).any fun
      | .link _ => true
      | _ => false
    | .error _ => false
  match String.ofList operator with
  | "-z" => .ok operand.isEmpty
  | "-n" => .ok !operand.isEmpty
  | "-t" => (number operand).map fun _ => false
  | "-e" | "-r" | "-w" | "-O" | "-G" => .ok node.isSome
  | "-f" => .ok (node.any fun
    | .file _ _ => true
    | _ => false)
  | "-d" => .ok (node.any Node.isDirectory)
  | "-x" => .ok (node.any fun
    | .file mode _ | .special mode => mode.executable
    | .directory _ => true
    | .link _ => false)
  | "-s" => .ok (node.any fun
    | .file _ content => !content.isEmpty
    | .directory _ => true
    | _ => false)
  | "-h" | "-L" => .ok isLink
  | "-p" => .ok (node.any fun
    | .special _ => true
    | _ => false)
  | _ => .ok false

/-- What a binary operator says of its operands. -/
def binary (scene : Scene) (first operator second : Text) : Except Fault Bool :=
  let compare (f : Int → Int → Bool) : Except Fault Bool := do
    return f (← number first) (← number second)
  let place (path : Text) : Option Location :=
    match scene.files.locate ⟨true, false⟩ scene.working (toBytes path) with
    | .ok place => some place
    | .error _ => none
  match String.ofList operator with
  | "=" => .ok (first = second)
  | "!=" => .ok (first ≠ second)
  | "<" => .ok (toBytes first < toBytes second)
  | ">" => .ok (toBytes second < toBytes first)
  | "-eq" => compare (· = ·)
  | "-ne" => compare (· ≠ ·)
  | "-lt" => compare (· < ·)
  | "-le" => compare (· ≤ ·)
  | "-gt" => compare (· > ·)
  | "-ge" => compare (· ≥ ·)
  | "-ef" => .ok ((place first).isSome && place first = place second)
  | _ => .ok false

mutual

/-- One operand: its answer, and the words after it. -/
def primary (scene : Scene) (fuel : Nat) (words : List Text) : Except Fault (Bool × List Text) :=
  match fuel with
  | 0 => .ok (false, [])
  | fuel + 1 =>
    match words with
    | [] => .ok (false, [])
    | first :: rest =>
      match frontRole words with
      | some .opening =>
        if frontRole rest = some .closing then .ok (false, rest.tail)
        else do
          let (answer, rest) ← anyOf scene fuel rest
          if frontRole rest = some .closing then return (answer, rest.tail)
          else throw .parenthesisExpected
      | some .unary =>
        match rest with
        | [] => .error (.argumentExpected first)
        | operand :: rest => (unary scene first operand).map (·, rest)
      | _ =>
        match rest with
        | operator :: rest =>
          if frontRole (operator :: rest) = some .binary then
            match rest with
            | [] => .error (.argumentExpected operator)
            | second :: rest => (binary scene first operator second).map (·, rest)
          else .ok (!first.isEmpty, operator :: rest)
        | [] => .ok (!first.isEmpty, [])

def negation (scene : Scene) (fuel : Nat) (words : List Text) : Except Fault (Bool × List Text) :=
  match fuel with
  | 0 => .ok (false, [])
  | fuel + 1 =>
    if frontRole words = some .negation then do
      let (answer, rest) ← negation scene fuel words.tail
      return (!answer, rest)
    else primary scene fuel words

def allOf (scene : Scene) (fuel : Nat) (words : List Text) : Except Fault (Bool × List Text) :=
  match fuel with
  | 0 => .ok (false, [])
  | fuel + 1 => do
    let (first, rest) ← negation scene fuel words
    if frontRole rest = some .conjunction then
      let (second, rest) ← allOf scene fuel rest.tail
      return (first && second, rest)
    else return (first, rest)

def anyOf (scene : Scene) (fuel : Nat) (words : List Text) : Except Fault (Bool × List Text) :=
  match fuel with
  | 0 => .ok (false, [])
  | fuel + 1 => do
    let (first, rest) ← allOf scene fuel words
    if frontRole rest = some .disjunction then
      let (second, rest) ← anyOf scene fuel rest.tail
      return (first || second, rest)
    else return (first, rest)

end

/-- The answer to a whole condition. -/
def whole (scene : Scene) (words : List Text) : Except Fault Bool := do
  let (answer, rest) ← anyOf scene (8 * (words.length + 2)) words
  match rest with
  | [] => return answer
  | _ => throw (.unexpected ((words[words.length - rest.length - 1]?).getD []))

/-- What is left of three or four words without an outer negation or a pair of parentheses. -/
def unwrap (words : List Text) : Option (Bool × List Text) :=
  if words.length = 3 || words.length = 4 then
    if words.head? = some ['('] && words.getLast? = some [')'] then
      some (false, words.tail.dropLast)
    else if words.head? = some ['!'] then some (true, words.tail)
    else none
  else none

/-- The answer of `test`. Of three words with a binary operator between the others, the outer ones
are its operands. -/
def answer (scene : Scene) (words : List Text) : Except Fault Bool :=
  match words with
  | [] => .ok false
  | [first, operator, second] =>
    if (role? operator).any (· = .binary) then binary scene first operator second
    else
      match unwrap words with
      | some (negated, words) => (whole scene words).map (· != negated)
      | none => whole scene words
  | _ =>
    match unwrap words with
    | some (true, [first, operator, second]) =>
      if (role? operator).any (· = .binary) then (binary scene first operator second).map (!·)
      else (whole scene [first, operator, second]).map (!·)
    | some (negated, words) => (whole scene words).map (· != negated)
    | none => whole scene words

end CommandShell.Script.Condition
