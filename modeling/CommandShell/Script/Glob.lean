import CommandShell.Files
import CommandShell.Script.Statement

/-!
Patterns: texts in which some characters stand for others, and the file names they match.
-/

set_option autoImplicit false

namespace CommandShell.Script

/-- A character of an expanded word; a literal one stands for itself alone. -/
structure Glyph where
  char : Char
  literal : Bool
  deriving DecidableEq

abbrev Pattern := List Glyph

namespace Pattern

def text (pattern : Pattern) : Text := pattern.map (·.char)

def isActive (c : Char) (glyph : Glyph) : Bool := glyph.char = c && !glyph.literal

/-- The classes of characters that have a name. -/
def inClass (name : Text) (c : Char) : Bool :=
  let visible := '!' ≤ c && c ≤ '~'
  match String.ofList name with
  | "alpha" => c.isAlpha
  | "digit" => c.isDigit
  | "alnum" => c.isAlphanum
  | "upper" => c.isUpper
  | "lower" => c.isLower
  | "space" => c = ' ' || ('\t' ≤ c && c ≤ '\r')
  | "blank" => c = ' ' || c = '\t'
  | "punct" => visible && !c.isAlphanum
  | "print" => visible || c = ' '
  | "graph" => visible
  | "cntrl" => c < ' ' || c = '\x7f'
  | "xdigit" => c.isDigit || ('a' ≤ c.toLower && c.toLower ≤ 'f')
  | _ => false

/-- The members of a set before its closing bracket: whether a character is among them, and what
follows the set. `first` says that a closing bracket would be the first member, `fuel` bounds the
members. -/
def readSet (fuel : Nat) (c : Char) (found first : Bool) (pattern : Pattern) :
    Option (Bool × Pattern) :=
  match fuel, pattern with
  | 0, _ | _, [] => none
  | fuel + 1, ⟨'[', false⟩ :: ⟨':', false⟩ :: rest =>
    let name := (rest.takeWhile (·.char ≠ ':')).map (·.char)
    match rest.drop name.length with
    | ⟨':', _⟩ :: ⟨']', _⟩ :: others => readSet fuel c (found || inClass name c) false others
    | _ => readSet fuel c (found || c = '[') false (⟨':', false⟩ :: rest)
  | fuel + 1, ⟨low, literal⟩ :: rest =>
    if low = ']' && !literal && !first then some (found, rest)
    else
      match rest with
      | ⟨'-', false⟩ :: ⟨high, highLiteral⟩ :: others =>
        if high = ']' && !highLiteral then readSet fuel c (found || c = low) false rest
        else readSet fuel c (found || (low ≤ c && c ≤ high)) false others
      | _ => readSet fuel c (found || c = low) false rest

/-- The set after an opening bracket, maybe negated: whether it holds a character, and what follows
it. -/
def matchSet (c : Char) (pattern : Pattern) : Option (Bool × Pattern) :=
  match pattern with
  | first :: rest =>
    let fuel := pattern.length
    if isActive '!' first then
      (readSet fuel c false true rest).map fun (found, rest) => (!found, rest)
    else readSet fuel c false true pattern
  | [] => none

/-- Whether a text matches a pattern. `fuel` bounds the length of both. -/
def coversUpTo (fuel : Nat) (pattern : Pattern) (t : Text) : Bool :=
  match fuel with
  | 0 => false
  | fuel + 1 =>
    match pattern, t with
    | [], [] => true
    | [], _ => false
    | ⟨'*', false⟩ :: rest, [] => coversUpTo fuel rest []
    | ⟨'*', false⟩ :: rest, c :: others =>
      coversUpTo fuel rest (c :: others) || coversUpTo fuel pattern others
    | ⟨'\\', false⟩ :: ⟨c, _⟩ :: rest, d :: others => c = d && coversUpTo fuel rest others
    | _, [] => false
    | ⟨'?', false⟩ :: rest, _ :: others => coversUpTo fuel rest others
    | ⟨'[', false⟩ :: rest, d :: others =>
      match matchSet d rest with
      | some (found, rest) => found && coversUpTo fuel rest others
      | none => d = '[' && coversUpTo fuel rest others
    | ⟨c, _⟩ :: rest, d :: others => c = d && coversUpTo fuel rest others

def covers (pattern : Pattern) (t : Text) : Bool :=
  coversUpTo (pattern.length + t.length + 1) pattern t

/-- Whether a pattern may match more than one text. -/
def isOpen (pattern : Pattern) : Bool :=
  pattern.any fun glyph => isActive '*' glyph || isActive '?' glyph || isActive '[' glyph

/-- The lengths of the beginnings of a text, the shortest first. -/
def fronts (t : Text) : List Nat := List.range (t.length + 1)

/-- A text without the shortest or the longest beginning that matches. -/
def cutFront (pattern : Pattern) (longest : Bool) (t : Text) : Text :=
  let lengths := if longest then (fronts t).reverse else fronts t
  match lengths.find? fun length => pattern.covers (t.take length) with
  | some length => t.drop length
  | none => t

/-- A text without the shortest or the longest end that matches. -/
def cutBack (pattern : Pattern) (longest : Bool) (t : Text) : Text :=
  let lengths := if longest then fronts t else (fronts t).reverse
  match lengths.find? fun length => pattern.covers (t.drop length) with
  | some length => t.take length
  | none => t

end Pattern

end CommandShell.Script
