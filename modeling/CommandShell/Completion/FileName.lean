import CommandShell.Files
import CommandShell.NameSet

/-!
Completing file names inside a line: where the name starts, how it was quoted, which files it may
become and how those are written back.
-/

set_option autoImplicit false

namespace CommandShell

/-- A way the word at the cursor may go on. -/
structure Candidate where
  display : Text
  replacement : Text
  deriving DecidableEq

namespace FileName

/-- How the word at the cursor is quoted. -/
inductive Quoting
  | bare
  | single
  | double
  deriving DecidableEq

/-- The characters that end a bare word. -/
def isBreak (c : Char) : Bool :=
  c ∈ [' ', '\t', '\n', '\x22', '\\', '\x27', '\x60', '@', '$', '>', '<', '=', ';', '|', '&', '\x7b',
    '(', '\x00']

/-- The characters that keep a meaning between double quotes. -/
def isDoubleSpecial (c : Char) : Bool := c ∈ ['\x22', '$', '\\', '\x60']

/-- The quote still open at the end of a text: its kind, and the text after its opening mark.
`held` is what follows the opening mark of the quote that is open so far, in reverse. -/
def openQuoteFrom (quoting : Quoting) (held : Text) : Text → Option (Quoting × Text)
  | [] =>
    match quoting with
    | .bare => none
    | .single | .double => some (quoting, held.reverse)
  | c :: rest =>
    match quoting with
    | .bare =>
      if c = '\x22' then openQuoteFrom .double [] rest
      else if c = '\x27' then openQuoteFrom .single [] rest
      else if c = '\\' then
        match rest with
        | [] => none
        | _ :: rest => openQuoteFrom .bare [] rest
      else openQuoteFrom .bare [] rest
    | .single =>
      if c = '\x27' then openQuoteFrom .bare [] rest else openQuoteFrom .single (c :: held) rest
    | .double =>
      if c = '\x22' then openQuoteFrom .bare [] rest
      else if c = '\\' then
        match rest with
        | [] => some (.double, (c :: held).reverse)
        | d :: rest => openQuoteFrom .double (d :: c :: held) rest
      else openQuoteFrom .double (c :: held) rest

def openQuote (t : Text) : Option (Quoting × Text) := openQuoteFrom .bare [] t

/-- The bare word at the end of a reversed text, itself in reading order. `found` holds the word
after the last break seen, `passed` all that was passed; a backslash before a break takes the break
back. -/
def bareWordFrom (found : Option Text) (passed : Text) : Text → Text
  | [] => found.getD passed
  | c :: before =>
    match found with
    | some word => if c = '\\' then bareWordFrom none (c :: passed) before else word
    | none =>
      if isBreak c then bareWordFrom (some passed) (c :: passed) before
      else bareWordFrom none (c :: passed) before

def bareWord (t : Text) : Text := bareWordFrom none [] t.reverse

/-- Drops each backslash that stands for the character after it; a last lone one goes too. -/
def unescape : Text → Text
  | [] => []
  | '\\' :: c :: rest => c :: unescape rest
  | ['\\'] => []
  | c :: rest => c :: unescape rest

/-- Writes a name so that it reads back inside a quotation of the given kind. -/
def escape (quoting : Quoting) (name : Text) : Text :=
  let special : Char → Bool :=
    match quoting with
    | .bare => isBreak
    | .double => isDoubleSpecial
    | .single => fun _ => false
  name.flatMap fun c => if special c then ['\\', c] else [c]

/-- The word at the end of a text as it is written, its quotation, and what it stands for. -/
def wordAt (t : Text) : Text × Quoting × Text :=
  match openQuote t with
  | some (.double, word) => (word, .double, unescape word)
  | some (quoting, word) => (word, quoting, word)
  | none => (bareWord t, .bare, unescape (bareWord t))

/-- A word cut after its last slash: the directory as written, and the start of a name. -/
def splitDirectory (word : Text) : Text × Text :=
  let start := (word.reverse.takeWhile (· ≠ '/')).reverse
  (word.take (word.length - start.length), start)

/-- The directory a written directory stands for. A first component `~` is the home directory. -/
def directoryPath (home : Path) (written : Text) : Path :=
  match written with
  | [] => ".".toList |> Utf8.encode
  | '~' :: '/' :: below =>
    Path.join home (Utf8.encode (below.dropWhile (· = '/')))
  | _ => Utf8.encode written

/-- Puts a candidate in its place in the order of the displayed names. -/
def insertCandidate (candidate : Candidate) : List Candidate → List Candidate
  | [] => [candidate]
  | first :: rest =>
    if first.display.precedes candidate.display then first :: insertCandidate candidate rest
    else candidate :: first :: rest

/-- The files whose names go on as a word begins, in the order of their names. -/
def candidates (files : Files) (home : Path) (quoting : Quoting) (word : Text) : List Candidate :=
  let (written, start) := splitDirectory word
  let directory := directoryPath home written
  let found := ((files.list directory).getD []).filterMap fun entry =>
    match Utf8.decode entry, files.kind (Path.join directory entry) with
    | some name, some kind =>
      if start.isPrefixOf name then
        let path := written ++ name ++ (if kind = .directory then ['/'] else [])
        some ⟨name, escape quoting path⟩
      else none
    | _, _ => none
  found.foldr insertCandidate []

end FileName

end CommandShell
