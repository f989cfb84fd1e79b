import CommandShell.Script.Statement

/-!
The text of a script while it is read: its characters, its tokens, and what can be wrong with it.
-/

set_option autoImplicit false

namespace CommandShell.Script

/-- What is wrong with the text of a script. -/
inductive Mistake
  /-- Something stands where it cannot, maybe in the place of something else. -/
  | unexpected (found : Text) (wanted : Option Text)
  | openQuote
  | openBackquote
  | openBrace
  | openParentheses
  | functionName
  | loopName
  | descriptor
  deriving DecidableEq

def Mistake.message (mistake : Mistake) : Text :=
  "Syntax error: ".toList ++
    match mistake with
    | .unexpected found none => found ++ " unexpected".toList
    | .unexpected found (some wanted) =>
      found ++ " unexpected (expecting ".toList ++ wanted ++ [')']
    | .openQuote => "Unterminated quoted string".toList
    | .openBackquote => "EOF in backquote substitution".toList
    | .openBrace => "Missing '\x7d'".toList
    | .openParentheses => "Missing '))'".toList
    | .functionName => "Bad function name".toList
    | .loopName => "Bad for loop variable".toList
    | .descriptor => "Bad fd number".toList

/-- A mistake and the line on which it shows. -/
structure Fault where
  line : Nat
  mistake : Mistake

inductive Token
  | endOfFile
  | newline
  | operator (sign : Text)
  | redirection (descriptor : Nat) (direction : Direction)
  /-- A redirection from a document in the script. -/
  | document (descriptor : Nat) (dropTabs : Bool)
  | word (word : Word)
  /-- A word that has a meaning of its own where a statement begins. -/
  | keyword (name : Text)

namespace Token

def keywords : List Text :=
  ["!", "case", "do", "done", "elif", "else", "esac", "fi", "for", "if", "in", "then", "until",
    "while", "\x7b", "\x7d"].map String.toList

/-- A token as complaints name it. -/
def shown : Token → Text
  | .endOfFile => "end of file".toList
  | .newline => "newline".toList
  | .operator sign => '\x22' :: sign ++ ['\x22']
  | .redirection _ _ | .document _ _ => "redirection".toList
  | .word _ => "word".toList
  | .keyword name => '\x22' :: name ++ ['\x22']

/-- A word as a keyword, if it is one. -/
def asKeyword : Token → Token
  | .word parts =>
    match Word.literal? parts with
    | some name => if keywords.contains name then .keyword name else .word parts
    | none => .word parts
  | token => token

/-- The word that a token is, outside of quotes. -/
def name? : Token → Option Text
  | .word parts => Word.literal? parts
  | _ => none

def isOperator (token : Token) (sign : String) : Bool :=
  match token with
  | .operator other => other = sign.toList
  | _ => false

def isKeyword (token : Token) (name : String) : Bool :=
  match token with
  | .keyword other => other = name.toList
  | _ => false

/-- Whether a list of statements ends before a token. -/
def closes : Token → Bool
  | .endOfFile => true
  | .operator sign => [";;", ")"].contains (String.ofList sign)
  | .keyword name =>
    ["do", "done", "elif", "else", "esac", "fi", "then", "\x7d"].contains (String.ofList name)
  | _ => false

end Token

/-- A document that is announced: it stands on the lines after this one. -/
structure Awaited where
  number : Nat
  delimiter : Text
  dropTabs : Bool
  /-- Nothing is put into the document. -/
  quoted : Bool

/-- An alias whose value is being read. -/
structure Running where
  name : Text
  /-- How much is left to be read behind the value. -/
  behind : Nat
  /-- The value ends with a blank, so that the next word may be an alias too. -/
  opensNext : Bool

/-- What a word may mean where it is read. -/
structure Meanings where
  keywords : Bool
  aliases : Bool

namespace Meanings

/-- Nothing but itself. -/
def plain : Meanings := ⟨false, false⟩

def keyword : Meanings := ⟨true, false⟩

/-- What it may mean where a statement begins. -/
def command : Meanings := ⟨true, true⟩

end Meanings

/-- What is left of a script to be read. -/
structure Source where
  rest : Text
  line : Nat
  /-- A token that is read but not used yet. -/
  held : Option Token
  /-- The documents read so far, by their numbers. -/
  documents : List (Nat × Word)
  awaited : List Awaited
  /-- A document is read. -/
  inDocument : Bool
  /-- The texts that stand for names where a command is named. -/
  aliases : List (Text × Text)
  running : List Running

namespace Source

def start (text : Text) (documents : List (Nat × Word)) (aliases : List (Text × Text)) : Source :=
  ⟨text, 1, none, documents, [], false, aliases, []⟩

/-- The number of the next document. -/
def nextDocument (source : Source) : Nat := source.documents.length + source.awaited.length

/-- The aliases whose values are being read. -/
def stillRunning (source : Source) : List Running :=
  source.running.filter (·.behind ≤ source.rest.length)

/-- A text that is read in the place of the rest, while the same aliases run. -/
def inside (source : Source) (text : Text) (inDocument : Bool) : Source :=
  { source with
    rest := text, held := none, awaited := [], inDocument := inDocument,
    running := source.stillRunning.map fun entered => { entered with behind := 0 } }

/-- What an alias stands for, unless its own value is being read. -/
def replacement? (source : Source) (name : Text) : Option Text :=
  if source.stillRunning.any (·.name = name) then none else source.aliases.lookup name

/-- Puts the value of an alias in front of the rest. -/
def expandAlias (source : Source) (name value : Text) : Source :=
  if value.isEmpty then source
  else
    { source with
      rest := value ++ source.rest
      running := ⟨name, source.rest.length, value.getLast?.any [' ', '\t'].contains⟩
        :: source.stillRunning }

/-- Whether the reading of a token has stepped out of an alias that lets the next word be one. -/
def leavesOpening (source : Source) (before : Nat) : Bool :=
  source.running.any fun entered =>
    entered.opensNext && entered.behind < before && source.rest.length ≤ entered.behind

end Source

/-- Reads something from a script. -/
abbrev Reader := StateT Source (Except Fault)

namespace Reader

def fail {α : Type} (mistake : Mistake) : Reader α := do
  throw ⟨(← get).line, mistake⟩

def unexpected {α : Type} (token : Token) (wanted : Option String) : Reader α :=
  fail (.unexpected token.shown (wanted.map fun sign => '\x22' :: sign.toList ++ ['\x22']))

/-- Complains of a parameter without its closing brace, or of the quotation around it. -/
def failOpen {α : Type} (quoted : Bool) : Reader α := do
  fail (if quoted && !(← get).inDocument then .openQuote else .openBrace)

def countLines (t : Text) : Nat := t.count '\n'

/-- Goes on behind what has been read. -/
def moveTo (rest : Text) : Reader Unit :=
  modify fun source =>
    { source with
      rest := rest
      line := source.line + (countLines source.rest - countLines rest) }

/-- Drops a newline that does not count. -/
def dropUncounted : Reader Unit :=
  modify fun source =>
    if source.rest.head? = some '\n' then { source with rest := source.rest.tail } else source

/-- The next character, left where it is. -/
def peek : Reader (Option Char) := do return (← get).rest.head?

def advance : Reader Unit := do moveTo (← get).rest.tail

/-- Drops the ends of lines that a backslash joins to the next ones. -/
def dropJoins : Text → Text
  | '\\' :: '\n' :: rest => dropJoins rest
  | t => t

/-- The next character behind joined lines, left where it is. -/
def look : Reader (Option Char) := do
  moveTo (dropJoins (← get).rest)
  peek

/-- Takes the next character if it is the given one. -/
def accept (c : Char) : Reader Bool := do
  if (← look) = some c then
    advance
    return true
  else return false

/-- Drops blanks, and a comment. -/
def dropBlanks (comment : Bool) : Text → Text
  | [] => []
  | '\\' :: '\n' :: rest => if comment then '\n' :: rest else dropBlanks false rest
  | c :: rest =>
    if c = '\n' then c :: rest
    else if comment || c = ' ' || c = '\t' || c = '#' then dropBlanks (comment || c = '#') rest
    else c :: rest

/-- Cuts off the characters of a name. -/
def spanName : Text → Text × Text
  | [] => ([], [])
  | '\\' :: '\n' :: rest => spanName rest
  | c :: rest =>
    if isNameChar c then
      let (name, rest) := spanName rest
      (c :: name, rest)
    else ([], c :: rest)

/-- Takes a name. -/
def readName : Reader Text := do
  let (name, rest) := spanName (← get).rest
  moveTo rest
  return name

/-- Cuts off what stands between backquotes, the closing one too. Of a backslash there only one
before another, before a backquote or a dollar sign is dropped. -/
def spanBackquote (quoted : Bool) : Text → Option (Text × Text)
  | [] => none
  | '\x60' :: rest => some ([], rest)
  | '\\' :: '\n' :: rest => spanBackquote quoted rest
  | '\\' :: c :: rest =>
    (spanBackquote quoted rest).map fun (inner, rest) =>
      if c ∈ ['\\', '\x60', '$'] || (quoted && c = '\x22') then (c :: inner, rest)
      else ('\\' :: c :: inner, rest)
  | c :: rest => (spanBackquote quoted rest).map fun (inner, rest) => (c :: inner, rest)

/-- Cuts off the lines of a document, and the delimiter after them. The present line so far and the
lines before it are in reverse. -/
def spanDocument (awaited : Awaited) (line lines : Text) : Text → Text × Text
  | [] =>
    let last := finished line
    (if last = awaited.delimiter then lines.reverse else lines.reverse ++ last, [])
  | '\n' :: rest =>
    let last := finished line
    if last = awaited.delimiter then (lines.reverse, rest)
    else spanDocument awaited [] ('\n' :: last.reverse ++ lines) rest
  | c :: rest => spanDocument awaited (c :: line) lines rest
where
  finished (line : Text) : Text :=
    if awaited.dropTabs then line.reverse.dropWhile (· = '\t') else line.reverse

end Reader

end CommandShell.Script
