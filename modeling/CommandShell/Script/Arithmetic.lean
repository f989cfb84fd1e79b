import CommandShell.Script.Statement
import CommandShell.Text.Decimal

/-!
Expressions on integers of 64 bits, as scripts evaluate them.
-/

set_option autoImplicit false

namespace CommandShell.Script.Arithmetic

/-- The integer of 64 bits that is congruent to a given one. -/
def wrap (i : Int) : Int := Int.bmod i 0x10000000000000000

/-- The nearest integer of 64 bits. -/
def clamp (i : Int) : Int := max (-0x8000000000000000) (min i 0x7FFFFFFFFFFFFFFF)

def digitValue? (c : Char) : Option Nat :=
  if c.isDigit then some (c.toNat - '0'.toNat)
  else
    let lower := c.toLower
    if 'a' ≤ lower && lower ≤ 'f' then some (lower.toNat - 'a'.toNat + 10) else none

def isDigitOf (base : Nat) (c : Char) : Bool := (digitValue? c).any (· < base)

/-- Cuts off digits, and tells their value. -/
def spanDigits (base : Nat) (t : Text) : Option (Nat × Text) :=
  let digits := t.takeWhile (isDigitOf base)
  if digits.isEmpty then none
  else
    some (digits.foldl (fun n c => n * base + (digitValue? c).getD 0) 0, t.drop digits.length)

/-- Cuts off a number without a sign. A leading zero makes it octal, `0x` hexadecimal. -/
def spanNumber (t : Text) : Option (Nat × Text) :=
  match t with
  | '0' :: x :: rest =>
    if x = 'x' || x = 'X' then
      match spanDigits 16 rest with
      | some found => some found
      | none => some (0, x :: rest)
    else
      match spanDigits 8 (x :: rest) with
      | some found => some found
      | none => some (0, x :: rest)
  | _ => spanDigits 10 t

def isSpace (c : Char) : Bool := c = ' ' || ('\t' ≤ c && c ≤ '\r')

/-- Cuts off a number that may have blanks and a sign before it. -/
def spanSigned (t : Text) : Option (Int × Text) :=
  match t.dropWhile isSpace with
  | '-' :: rest => (spanNumber rest).map fun (n, rest) => (clamp (-n), rest)
  | '+' :: rest => (spanNumber rest).map fun (n, rest) => (clamp n, rest)
  | rest => (spanNumber rest).map fun (n, rest) => (clamp n, rest)

/-- The value of a variable: nothing counts as zero. -/
def parseValue (t : Text) : Option Int :=
  match spanSigned t with
  | some (i, rest) => if (rest.dropWhile isSpace).isEmpty then some i else none
  | none => if (t.dropWhile isSpace).isEmpty then some 0 else none

inductive Token
  | number (i : Int)
  | name (name : Text)
  | sign (sign : Text)
  deriving DecidableEq

/-- The operators of two and three characters, and the rest. -/
def signs : List Text :=
  ["<<=", ">>=", "<<", ">>", "<=", ">=", "==", "!=", "&&", "||", "+=", "-=", "*=", "/=", "%=", "&=",
    "|=", "^=", "+", "-", "*", "/", "%", "<", ">", "&", "|", "^", "!", "~", "?", ":", "=", "(",
    ")"].map String.toList

/-- Cuts an expression into tokens. A character that fits nowhere is a sign of its own. -/
def tokens (fuel : Nat) (t : Text) : List Token :=
  match fuel, t.dropWhile isSpace with
  | 0, _ | _, [] => []
  | fuel + 1, c :: rest =>
    match spanNumber (c :: rest) with
    | some (n, rest) => .number (clamp n) :: tokens fuel rest
    | none =>
      if isNameStart c then
        .name ((c :: rest).takeWhile isNameChar) :: tokens fuel (rest.dropWhile isNameChar)
      else
        let sign := (signs.find? (·.isPrefixOf (c :: rest))).getD [c]
        .sign sign :: tokens fuel ((c :: rest).drop sign.length)

/-- What is wrong with an expression. -/
inductive Fault
  | noPrimary
  | noEnd
  | noColon
  | noParenthesis
  | divisionByZero
  /-- A variable holds no number. -/
  | value (text : Text)
  deriving DecidableEq

/-- How a fault of an expression is told. -/
def Fault.message (expression : Text) (fault : Fault) : Text :=
  let told (what : String) : Text :=
    "arithmetic expression: ".toList ++ what.toList ++ ": \x22".toList ++ expression ++ ['\x22']
  match fault with
  | .noPrimary => told "expecting primary"
  | .noEnd => told "expecting EOF"
  | .noColon => told "expecting ':'"
  | .noParenthesis => told "expecting ')'"
  | .divisionByZero => told "division by zero"
  | .value text => "Illegal number: ".toList ++ text

/-- What is left of an expression, and the values that it has given to variables. -/
structure Progress where
  tokens : List Token
  assigned : List (Text × Int)

abbrev Evaluation := StateT Progress (Except Fault)

def peek : Evaluation (Option Token) := do return (← get).tokens.head?

def advance : Evaluation Unit :=
  modify fun progress => { progress with tokens := progress.tokens.tail }

/-- The operators between two operands, those that bind tightest first. -/
def levels : List (List Text) :=
  [["*", "/", "%"], ["+", "-"], ["<<", ">>"], ["<", "<=", ">", ">="], ["==", "!="], ["&"], ["^"],
    ["|"]].map (·.map String.toList)

def ofBool (b : Bool) : Int := if b then 1 else 0

/-- Works on the two's complements of integers. -/
def bitwise (f : Nat → Nat → Nat) (a b : Int) : Int :=
  wrap (f (a.emod 0x10000000000000000).toNat (b.emod 0x10000000000000000).toNat)

/-- The value of an operator. -/
def apply (sign : Text) (a b : Int) : Except Fault Int :=
  let power : Int := (Nat.shiftLeft 1 (b.emod 64).toNat : Nat)
  match String.ofList sign with
  | "*" => .ok (wrap (a * b))
  | "/" => if b = 0 then .error .divisionByZero else .ok (wrap (a.tdiv b))
  | "%" => if b = 0 then .error .divisionByZero else .ok (wrap (a.tmod b))
  | "+" => .ok (wrap (a + b))
  | "-" => .ok (wrap (a - b))
  | "<<" => .ok (wrap (a * power))
  | ">>" => .ok (a / power)
  | "<" => .ok (ofBool (a < b))
  | "<=" => .ok (ofBool (a ≤ b))
  | ">" => .ok (ofBool (a > b))
  | ">=" => .ok (ofBool (a ≥ b))
  | "==" => .ok (ofBool (a = b))
  | "!=" => .ok (ofBool (a ≠ b))
  | "&" => .ok (bitwise Nat.land a b)
  | "^" => .ok (bitwise Nat.xor a b)
  | "|" => .ok (bitwise Nat.lor a b)
  | _ => .ok b

/-- The operator that an assignment applies first, if a sign is an assignment. -/
def assignmentSign? (sign : Text) : Option Text :=
  let isComparison := ["<=", ">=", "==", "!="].contains (String.ofList sign)
  if sign.getLast? = some '=' && !isComparison then
    some sign.dropLast
  else none

/-- The value of a variable, by the values it has had before and has got in the expression. -/
def variableValue (lookup : Text → Option Text) (name : Text) : Evaluation Int := do
  match (← get).assigned.lookup name with
  | some i => return i
  | none =>
    match lookup name with
    | none => return 0
    | some text =>
      match parseValue text with
      | some i => return i
      | none => throw (.value text)

mutual

/-- An assignment, or a condition. Without `live` nothing is looked up, assigned or divided. -/
def assignment (lookup : Text → Option Text) (fuel : Nat) (live : Bool) : Evaluation Int :=
  match fuel with
  | 0 => throw .noPrimary
  | fuel + 1 => do
    match (← get).tokens with
    | .name name :: .sign sign :: _ =>
      match assignmentSign? sign with
      | none => condition lookup fuel live
      | some sign =>
        advance
        advance
        let operand ← assignment lookup fuel live
        if !live then return operand
        let value ← if sign.isEmpty then pure operand
          else liftM (apply sign (← variableValue lookup name) operand)
        modify fun progress => { progress with assigned := (name, value) :: progress.assigned }
        return value
    | _ => condition lookup fuel live

def condition (lookup : Text → Option Text) (fuel : Nat) (live : Bool) : Evaluation Int :=
  match fuel with
  | 0 => throw .noPrimary
  | fuel + 1 => do
    let test ← anyOf lookup fuel live
    if (← peek) = some (.sign ['?']) then
      advance
      let yes ← assignment lookup fuel (live && test ≠ 0)
      if (← peek) ≠ some (.sign [':']) then throw .noColon
      advance
      let no ← condition lookup fuel (live && test = 0)
      return if test ≠ 0 then yes else no
    else return test

def anyOf (lookup : Text → Option Text) (fuel : Nat) (live : Bool) : Evaluation Int :=
  match fuel with
  | 0 => throw .noPrimary
  | fuel + 1 => do
    let first ← allOf lookup fuel live
    if (← peek) = some (.sign ['|', '|']) then
      advance
      let second ← anyOf lookup fuel (live && first = 0)
      return ofBool (first ≠ 0 || second ≠ 0)
    else return first

def allOf (lookup : Text → Option Text) (fuel : Nat) (live : Bool) : Evaluation Int :=
  match fuel with
  | 0 => throw .noPrimary
  | fuel + 1 => do
    let first ← binary lookup fuel live levels.reverse
    if (← peek) = some (.sign ['&', '&']) then
      advance
      let second ← allOf lookup fuel (live && first ≠ 0)
      return ofBool (first ≠ 0 && second ≠ 0)
    else return first

/-- Operators of some levels, the loosest first. -/
def binary (lookup : Text → Option Text) (fuel : Nat) (live : Bool) (levels : List (List Text)) :
    Evaluation Int :=
  match fuel with
  | 0 => throw .noPrimary
  | fuel + 1 =>
    match levels with
    | [] => primary lookup fuel live
    | loosest :: tighter => do
      let first ← binary lookup fuel live tighter
      extend lookup fuel live loosest tighter first

/-- Goes on with operators of one level. -/
def extend (lookup : Text → Option Text) (fuel : Nat) (live : Bool) (level : List Text)
    (tighter : List (List Text)) (first : Int) : Evaluation Int :=
  match fuel with
  | 0 => throw .noPrimary
  | fuel + 1 => do
    match ← peek with
    | some (.sign sign) =>
      if level.contains sign then
        advance
        let second ← binary lookup fuel live tighter
        let value ← if live then liftM (apply sign first second) else pure second
        extend lookup fuel live level tighter value
      else return first
    | _ => return first

def primary (lookup : Text → Option Text) (fuel : Nat) (live : Bool) : Evaluation Int :=
  match fuel with
  | 0 => throw .noPrimary
  | fuel + 1 => do
    let token ← peek
    advance
    match token with
    | some (.number i) => return i
    | some (.name name) => if live then variableValue lookup name else return 0
    | some (.sign ['(']) =>
      let value ← assignment lookup fuel live
      if (← peek) ≠ some (.sign [')']) then throw .noParenthesis
      advance
      return value
    | some (.sign ['-']) => return wrap (-(← primary lookup fuel live))
    | some (.sign ['+']) => primary lookup fuel live
    | some (.sign ['!']) => return ofBool ((← primary lookup fuel live) = 0)
    | some (.sign ['~']) => return -(← primary lookup fuel live) - 1
    | _ => throw .noPrimary

end

/-- The value of an expression, and the values it gives to variables, the first one first. -/
def evaluate (lookup : Text → Option Text) (t : Text) :
    Except Fault (Int × List (Text × Int)) := do
  let tokens := tokens (t.length + 1) t
  let (value, progress) ← (assignment lookup (32 * (t.length + 8)) true).run ⟨tokens, []⟩
  if progress.tokens.isEmpty then return (value, progress.assigned.reverse) else throw .noEnd

end CommandShell.Script.Arithmetic
