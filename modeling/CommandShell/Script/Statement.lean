import CommandShell.Text.Basic

/-!
What scripts consist of: words with what is put into them, and statements. The characters of a
script stand for its bytes.
-/

set_option autoImplicit false

namespace CommandShell.Script

/-- What is made of the value of a parameter. `orEmpty` says that an empty value is like none. -/
inductive Adjustment
  | asIs
  | length
  /-- The operand stands in for a value. -/
  | orElse (orEmpty : Bool)
  /-- The operand stands in for a value and becomes it. -/
  | assign (orEmpty : Bool)
  /-- Without a value the script ends, with the operand for a complaint. -/
  | demand (orEmpty : Bool)
  /-- The operand takes the place of any value. -/
  | instead (orEmpty : Bool)
  /-- The operand is a pattern for what is cut off in front. -/
  | withoutFront (longest : Bool)
  /-- The operand is a pattern for what is cut off at the end. -/
  | withoutBack (longest : Bool)
  | unknown
  deriving DecidableEq

/-- What a redirection does with its target. -/
inductive Direction
  | read
  | write
  /-- Write even where files are protected. -/
  | overwrite
  | append
  | both
  | duplicate
  /-- Read a document from the script itself, by its number. -/
  | document (number : Nat)
  deriving DecidableEq

mutual

/-- A piece of a word. What stands between quotes is neither split nor matched with file names. -/
inductive Part
  | char (c : Char) (quoted : Bool)
  /-- Where a quotation begins: the word is there even if it is empty. -/
  | mark
  | parameter (name : Text) (quoted : Bool) (adjustment : Adjustment) (operand : List Part)
  /-- What a statement prints. -/
  | output (statement : Statement) (quoted : Bool)
  /-- The value of an expression. -/
  | number (expression : List Part) (quoted : Bool)

inductive Statement
  | skip
  | simple (line : Nat) (assignments : List (Text × List Part)) (words : List (List Part))
      (redirects : List Redirect)
  | pipeline (stages : List Statement)
  | sequence (first second : Statement)
  | background (inner : Statement)
  | both (first second : Statement)
  | either (first second : Statement)
  | negated (inner : Statement)
  | redirected (line : Nat) (inner : Statement) (redirects : List Redirect)
  /-- Run in a copy of the script's surroundings. -/
  | isolated (line : Nat) (inner : Statement) (redirects : List Redirect)
  | conditional (test yes no : Statement)
  /-- The body is repeated while the test succeeds, or while it fails. -/
  | loop (whileFailing : Bool) (test body : Statement)
  /-- The body is run for each word, or for each argument if there are no words. -/
  | each (line : Nat) (name : Text) (words : Option (List (List Part))) (body : Statement)
  /-- The first clause with a pattern that the subject matches is run. -/
  | choice (line : Nat) (subject : List Part) (clauses : List (List (List Part) × Statement))
  | define (name : Text) (body : Statement)

inductive Redirect
  | mk (descriptor : Nat) (direction : Direction) (target : List Part)

end

abbrev Word := List Part

namespace Part

def isQuoted : Part → Bool
  | .char _ quoted | .parameter _ quoted _ _ | .output _ quoted | .number _ quoted => quoted
  | .mark => true

/-- The character of a piece that is one, outside of quotes. -/
def bare? : Part → Option Char
  | .char c false => some c
  | _ => none

/-- Whether a piece is a given character outside of quotes. -/
def isBare (c : Char) (part : Part) : Bool := part.bare? = some c

end Part

namespace Word

/-- The text of a word without quotes and without anything put into it. -/
def literal? (word : Word) : Option Text := word.mapM Part.bare?

/-- The text of the characters in a word. -/
def chars (word : Word) : Text := word.filterMap fun
  | .char c _ => some c
  | _ => none

def isQuoted (word : Word) : Bool := word.any Part.isQuoted

end Word

def isNameStart (c : Char) : Bool := c.isAlpha || c = '_'

def isNameChar (c : Char) : Bool := c.isAlphanum || c = '_'

/-- Whether a text can be the name of a variable. -/
def isName : Text → Bool
  | [] => false
  | first :: others => isNameStart first && others.all isNameChar

end CommandShell.Script
