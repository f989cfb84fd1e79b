import CommandShell.Script.Source

/-!
Reading the statements of a script. A script is read a line at a time, so that what stands before a
mistake is run.
-/

set_option autoImplicit false

namespace CommandShell.Script.Reader

/-- The characters that end a word outside of quotes. -/
def endsWord (c : Char) : Bool := c ∈ [' ', '\t', '\n', ';', '&', '|', '<', '>', '(', ')']

/-- The parameters whose names are one character that is no letter or digit. -/
def isSpecial (c : Char) : Bool := c ∈ ['!', '#', '$', '*', '-', '?', '@']

/-- Takes what stands up to an apostrophe. -/
def readSingle : Reader Word := do
  let rest := (← get).rest
  let inner := rest.takeWhile (· ≠ '\x27')
  moveTo (rest.drop (inner.length + 1))
  if inner.length = rest.length then fail .openQuote
  return .mark :: inner.map (.char · true)

/-- A pair of an assignment: a name and a value behind an equals sign. -/
def assignment? (word : Word) : Option (Text × Word) :=
  let isPlain (part : Part) : Bool := part.bare?.any (· ≠ '=')
  let name := (word.takeWhile isPlain).filterMap Part.bare?
  match word.dropWhile isPlain with
  | .char '=' false :: value => if isName name then some (name, value) else none
  | _ => none

/-- The commands that cannot be defined anew. -/
def fixedNames : List Text :=
  [".", ":", "break", "continue", "eval", "exec", "exit", "export", "local", "readonly", "return",
    "set", "shift", "times", "trap", "unset"].map String.toList

/-- Which list of statements is read. -/
inductive Extent
  /-- Up to the end of the line. -/
  | line
  /-- Up to a closing token, with at least one statement. -/
  | inner
  /-- Up to a closing token. -/
  | clause
  deriving DecidableEq

/-- A list of statements followed by another. -/
def join (first : Option Statement) (second : Statement) : Statement :=
  match first with
  | none => second
  | some first => .sequence first second

def leaveHeld (token : Token) : Reader Unit :=
  modify fun source => { source with held := some token }

/-- The line that is read. -/
def lineNumber : Reader Nat := do return (← get).line

mutual

/-- Takes what stands up to a quotation mark, or all of a document. `sofar` is in reverse. -/
def readDouble (fuel : Nat) (document : Bool) (sofar : Word) : Reader Word :=
  match fuel with
  | 0 => return sofar.reverse
  | fuel + 1 => do
    match ← peek with
    | none => if document then return sofar.reverse else fail .openQuote
    | some c =>
      advance
      if c = '\x22' && !document then return sofar.reverse
      else if c = '\\' then
        match ← peek with
        | none => readDouble fuel document (.char '\\' true :: sofar)
        | some d =>
          advance
          if d = '\n' then readDouble fuel document sofar
          else if d ∈ ['\\', '\x60', '$'] || (d = '\x22' && !document) then
            readDouble fuel document (.char d true :: sofar)
          else readDouble fuel document (.char d true :: .char '\\' true :: sofar)
      else
        let parts ← readPart fuel true c
        readDouble fuel document (parts.reverse ++ sofar)

/-- Takes what a character stands for where quotes make no difference. -/
def readPart (fuel : Nat) (quoted : Bool) (c : Char) : Reader Word :=
  match fuel with
  | 0 => return [.char c quoted]
  | fuel + 1 =>
    if c = '$' then readDollar fuel quoted
    else if c = '\x60' then do
      match spanBackquote quoted (← get).rest with
      | none =>
        moveTo []
        fail .openBackquote
      | some (inner, rest) =>
        let outer ← get
        set (outer.inside inner false)
        let statement ← readList fuel .clause none
        moveTo []
        modify fun source =>
          { outer with documents := source.documents }
        moveTo rest
        return [.output (statement.getD .skip) quoted]
    else return [.char c quoted]

/-- Takes a word outside of quotes. `sofar` is in reverse. -/
def readBare (fuel : Nat) (sofar : Word) : Reader Word :=
  match fuel with
  | 0 => return sofar.reverse
  | fuel + 1 => do
    match ← peek with
    | none => return sofar.reverse
    | some c =>
      if endsWord c then return sofar.reverse
      let parts ← readUnquoted fuel c
      readBare fuel (parts.reverse ++ sofar)

/-- Takes a character outside of quotes, or a quotation. -/
def readUnquoted (fuel : Nat) (c : Char) : Reader Word :=
  match fuel with
  | 0 => return []
  | fuel + 1 => do
    advance
    if c = '\x27' then readSingle
    else if c = '\x22' then return .mark :: (← readDouble fuel false [])
    else if c = '\\' then
      match ← peek with
      | none => return [.char '\\' true]
      | some d =>
        advance
        return if d = '\n' then [] else [.char d true]
    else readPart fuel false c

/-- Takes the operand of a parameter, up to a closing brace. `sofar` is in reverse. -/
def readOperand (fuel : Nat) (quoted : Bool) (sofar : Word) : Reader Word :=
  match fuel with
  | 0 => return sofar.reverse
  | fuel + 1 => do
    match ← peek with
    | none => failOpen quoted
    | some c =>
      if c = '\x7d' then
        advance
        return sofar.reverse
      else if !quoted then
        let parts ← readUnquoted fuel c
        readOperand fuel quoted (parts.reverse ++ sofar)
      else
        advance
        if c = '\x22' then readOperand fuel quoted sofar
        else if c = '\\' then
          match ← peek with
          | none => failOpen quoted
          | some d =>
            advance
            if d = '\n' then readOperand fuel quoted sofar
            else if d ∈ ['\\', '\x60', '$', '\x22', '\x7d'] then
              readOperand fuel quoted (.char d true :: sofar)
            else readOperand fuel quoted (.char d true :: .char '\\' true :: sofar)
        else
          let parts ← readPart fuel true c
          readOperand fuel quoted (parts.reverse ++ sofar)

/-- Takes what follows a dollar sign. -/
def readDollar (fuel : Nat) (quoted : Bool) : Reader Word :=
  match fuel with
  | 0 => return []
  | fuel + 1 => do
    match ← look with
    | none => return [.char '$' quoted]
    | some c =>
      if c = '(' then
        advance
        if ← accept '(' then return [.number (← readExpression fuel 0 []) quoted]
        else
          let outer ← get
          set { outer with held := none, awaited := [], inDocument := false }
          let statement ← readList fuel .clause none
          let token ← readToken fuel .plain false
          if !token.isOperator ")" then unexpected token ")"
          modify fun source =>
            { source with
              held := outer.held, awaited := outer.awaited, inDocument := outer.inDocument }
          return [.output (statement.getD .skip) quoted]
      else if c = '\x7b' then
        advance
        return [← readBraced fuel quoted]
      else if isNameStart c then return [.parameter (← readName) quoted .asIs []]
      else if c.isDigit || isSpecial c then
        advance
        return [.parameter [c] quoted .asIs []]
      else return [.char '$' quoted]

/-- Takes a parameter after its opening brace. -/
def readBraced (fuel : Nat) (quoted : Bool) : Reader Part :=
  match fuel with
  | 0 => return .mark
  | fuel + 1 => do
    match ← look with
    | none => failOpen quoted
    | some c =>
      if c.isAlphanum || c = '_' then
        let rest := (← get).rest
        let name ← if c.isDigit then pure (rest.takeWhile Char.isDigit) else readName
        if c.isDigit then moveTo (rest.drop name.length)
        readAdjustment fuel name quoted
      else if c = '#' then
        advance
        match ← look with
        | some d =>
          if d.isAlphanum || d = '_' then
            let name ← readName
            if ← accept '\x7d' then return .parameter name quoted .length []
            else return .parameter name quoted .unknown (← readOperand fuel quoted [])
          else
            let rest := (← get).rest
            if d ≠ '\x7d' && rest.tail.head? = some '\x7d' && isSpecial d then
              moveTo (rest.drop 2)
              return .parameter [d] quoted .length []
            else readAdjustment fuel ['#'] quoted
        | none => failOpen quoted
      else if isSpecial c then
        advance
        readAdjustment fuel [c] quoted
      else
        dropUncounted
        return .parameter [] quoted .unknown (← readOperand fuel quoted [])

/-- Takes what stands between the name of a parameter and the closing brace. -/
def readAdjustment (fuel : Nat) (name : Text) (quoted : Bool) : Reader Part :=
  match fuel with
  | 0 => return .mark
  | fuel + 1 => do
    let sign ← look
    if sign = some '%' || sign = some '#' then
      advance
      let longest ← accept (sign.getD '#')
      let operand ← readOperand fuel false []
      return .parameter name quoted
        (if sign = some '#' then .withoutFront longest else .withoutBack longest) operand
    else
      let orEmpty ← accept ':'
      match ← look with
      | some '\x7d' =>
        advance
        return .parameter name quoted .asIs []
      | some '-' =>
        advance
        return .parameter name quoted (.orElse orEmpty) (← readOperand fuel quoted [])
      | some '=' =>
        advance
        return .parameter name quoted (.assign orEmpty) (← readOperand fuel quoted [])
      | some '?' =>
        advance
        return .parameter name quoted (.demand orEmpty) (← readOperand fuel quoted [])
      | some '+' =>
        advance
        return .parameter name quoted (.instead orEmpty) (← readOperand fuel quoted [])
      | _ =>
        dropUncounted
        return .parameter name quoted .unknown (← readOperand fuel quoted [])

/-- Takes an expression up to its two closing parentheses. `depth` counts the open ones inside,
`sofar` is in reverse. -/
def readExpression (fuel depth : Nat) (sofar : Word) : Reader Word :=
  match fuel with
  | 0 => return sofar.reverse
  | fuel + 1 => do
    match ← look with
    | none => fail .openParentheses
    | some c =>
      advance
      if c = ')' && depth = 0 then
        if ← accept ')' then return sofar.reverse
        else readExpression fuel depth (.char c true :: sofar)
      else
        let depth := if c = '(' then depth + 1 else if c = ')' then depth - 1 else depth
        let parts ← readPart fuel true c
        readExpression fuel depth (parts.reverse ++ sofar)

/-- Takes the documents that are announced. -/
def readDocuments (fuel : Nat) : Reader Unit :=
  match fuel with
  | 0 => return
  | fuel + 1 => do
    match (← get).awaited with
    | [] => return
    | awaited :: others =>
      let (text, rest) := spanDocument awaited [] [] (← get).rest
      let outer ← get
      let word ←
        if awaited.quoted then pure (text.map (Part.char · true))
        else
          set (outer.inside text true)
          readDouble fuel true []
      let documents := (← get).documents ++ [(awaited.number, word)]
      set { outer with documents := documents, awaited := others }
      moveTo rest
      readDocuments fuel

/-- Takes the next token as it is. -/
def readRaw (fuel : Nat) : Reader Token :=
  match fuel with
  | 0 => return .endOfFile
  | fuel + 1 => do
    match (← get).held with
    | some token =>
      modify fun source => { source with held := none }
      return token
    | none =>
      moveTo (dropBlanks false (← get).rest)
      match ← peek with
      | none => return .endOfFile
      | some '\n' =>
        advance
        return .newline
      | some c =>
        if c = '&' || c = '|' || c = ';' then
          advance
          return .operator (if ← accept c then [c, c] else [c])
        else if c = '(' || c = ')' then
          advance
          return .operator [c]
        else
          let written := (← get).rest
          let sign := dropJoins written.tail
          if c.isDigit && (sign.head? = some '<' || sign.head? = some '>') then
            moveTo sign.tail
            readRedirection fuel (some (c.toNat - '0'.toNat)) (sign.head?.getD '>')
          else if c = '<' || c = '>' then
            advance
            readRedirection fuel none c
          else return .word (← readBare fuel [])

/-- Takes a redirection after its first character. -/
def readRedirection (fuel : Nat) (descriptor : Option Nat) (sign : Char) : Reader Token :=
  match fuel with
  | 0 => return .endOfFile
  | _ + 1 => do
    if sign = '>' then
      let descriptor := descriptor.getD 1
      if ← accept '>' then return .redirection descriptor .append
      else if ← accept '|' then return .redirection descriptor .overwrite
      else if ← accept '&' then return .redirection descriptor .duplicate
      else return .redirection descriptor .write
    else
      let descriptor := descriptor.getD 0
      if ← accept '<' then return .document descriptor (← accept '-')
      else if ← accept '&' then return .redirection descriptor .duplicate
      else if ← accept '>' then return .redirection descriptor .both
      else return .redirection descriptor .read

/-- Takes the next token: maybe behind newlines, and maybe as a keyword or for what an alias stands
for. -/
def readToken (fuel : Nat) (meanings : Meanings) (newlines : Bool) : Reader Token :=
  match fuel with
  | 0 => return .endOfFile
  | fuel + 1 => do
    let before := (← get).rest.length
    let token ← readRaw fuel
    match token with
    | .newline =>
      if newlines then
        readDocuments fuel
        readToken fuel meanings newlines
      else return token
    | _ =>
      let token := if meanings.keywords then token.asKeyword else token
      let source ← get
      let mayBeAlias := meanings.aliases || source.leavesOpening before
      match token.name?.filter fun _ => mayBeAlias with
      | none => return token
      | some name =>
        match source.replacement? name with
        | none => return token
        | some value =>
          set (source.expandAlias name value)
          readToken fuel { meanings with aliases := mayBeAlias } newlines

/-- Takes the target of a redirection. -/
def readTarget (fuel descriptor : Nat) (direction : Direction) : Reader Redirect :=
  match fuel with
  | 0 => return .mk descriptor direction []
  | fuel + 1 => do
    match ← readToken fuel .plain false with
    | .word target => return .mk descriptor direction target
    | token => unexpected token none

/-- Takes the delimiter of a document, and announces that. -/
def readDelimiter (fuel descriptor : Nat) (dropTabs : Bool) : Reader Redirect :=
  match fuel with
  | 0 => return .mk descriptor .read []
  | fuel + 1 => do
    match ← readToken fuel .plain false with
    | .word delimiter =>
      let number := (← get).nextDocument
      modify fun source =>
        { source with
          awaited := source.awaited ++
            [⟨number, Word.chars delimiter, dropTabs, Word.isQuoted delimiter⟩] }
      return .mk descriptor (.document number) []
    | token => unexpected token none

/-- Takes redirections. -/
def readRedirects (fuel : Nat) : Reader (List Redirect) :=
  match fuel with
  | 0 => return []
  | fuel + 1 => do
    match ← readToken fuel .command false with
    | .redirection descriptor direction =>
      let first ← readTarget fuel descriptor direction
      return first :: (← readRedirects fuel)
    | .document descriptor dropTabs =>
      let first ← readDelimiter fuel descriptor dropTabs
      return first :: (← readRedirects fuel)
    | token =>
      leaveHeld token
      return []

/-- Takes the words and redirections of a command. What it has come to is in reverse. -/
def readSimple (fuel line : Nat) (assignments : List (Text × Word)) (words : List Word)
    (redirects : List Redirect) : Reader Statement :=
  match fuel with
  | 0 => return .skip
  | fuel + 1 => do
    match ← readToken fuel ⟨false, words.isEmpty⟩ false with
    | .word word =>
      match assignment? word, words with
      | some assignment, [] => readSimple fuel line (assignment :: assignments) [] redirects
      | _, _ => readSimple fuel line assignments (word :: words) redirects
    | .redirection descriptor direction =>
      let redirect ← readTarget fuel descriptor direction
      readSimple fuel line assignments words (redirect :: redirects)
    | .document descriptor dropTabs =>
      let redirect ← readDelimiter fuel descriptor dropTabs
      readSimple fuel line assignments words (redirect :: redirects)
    | token =>
      match words, assignments, redirects with
      | [word], [], [] =>
        if token.isOperator "(" then
          let closing ← readToken fuel .plain false
          if !closing.isOperator ")" then unexpected closing ")"
          match Word.literal? word with
          | some name =>
            if !isName name || fixedNames.contains name then fail .functionName
            return .define name (← readCommand fuel true)
          | none => fail .functionName
        else
          leaveHeld token
          return .simple line [] [word] []
      | _, _, _ =>
        leaveHeld token
        return .simple line assignments.reverse words.reverse redirects.reverse

/-- Takes words up to a token that is none. `sofar` is in reverse. -/
def readWords (fuel : Nat) (sofar : List Word) : Reader (List Word × Token) :=
  match fuel with
  | 0 => return (sofar.reverse, .endOfFile)
  | fuel + 1 => do
    match ← readToken fuel .plain false with
    | .word word => readWords fuel (word :: sofar)
    | token => return (sofar.reverse, token)

/-- Takes a keyword that has to come next. -/
def expect (fuel : Nat) (name : String) (newlines : Bool) : Reader Unit :=
  match fuel with
  | 0 => return
  | fuel + 1 => do
    let token ← readToken fuel .command newlines
    if !token.isKeyword name then unexpected token name

/-- Takes the rest of a conditional after `if` or `elif`. -/
def readConditional (fuel : Nat) : Reader Statement :=
  match fuel with
  | 0 => return .skip
  | fuel + 1 => do
    let test ← readInner fuel
    expect fuel "then" false
    let yes ← readInner fuel
    let token ← readToken fuel .command false
    if token.isKeyword "elif" then return .conditional test yes (← readConditional fuel)
    else if token.isKeyword "else" then return .conditional test yes (← readInner fuel)
    else
      leaveHeld token
      return .conditional test yes .skip

/-- Takes the body of a loop, between `do` and `done`. -/
def readBody (fuel : Nat) (newlines : Bool) : Reader Statement :=
  match fuel with
  | 0 => return .skip
  | fuel + 1 => do
    expect fuel "do" newlines
    readInner fuel

/-- Takes a loop over words after `for`. -/
def readEach (fuel : Nat) : Reader Statement :=
  match fuel with
  | 0 => return .skip
  | fuel + 1 => do
    let line ← lineNumber
    match ← readToken fuel .plain false with
    | .word word =>
      match (Word.literal? word).filter isName with
      | none => fail .loopName
      | some name =>
        let token ← readToken fuel .command true
        if token.isKeyword "in" then
          let (words, token) ← readWords fuel []
          match token with
          | .newline => readDocuments fuel
          | _ => if !token.isOperator ";" then unexpected token none
          return .each line name (some words) (← readBody fuel true)
        else
          if !token.isOperator ";" then leaveHeld token
          return .each line name none (← readBody fuel true)
    | _ => fail .loopName

/-- Takes the patterns of a clause, whose first token is read already. `sofar` is in reverse. -/
def readPatterns (fuel : Nat) (token : Token) (sofar : List Word) : Reader (List Word) :=
  match fuel with
  | 0 => return []
  | fuel + 1 => do
    let pattern : Word :=
      match token with
      | .word word => word
      | .keyword name => name.map (Part.char · false)
      | _ => []
    let next ← readToken fuel .plain false
    if next.isOperator "|" then readPatterns fuel (← readToken fuel .plain false) (pattern :: sofar)
    else if next.isOperator ")" then return (pattern :: sofar).reverse
    else unexpected next ")"

/-- Takes the clauses of a choice, and `esac`. -/
def readClauses (fuel : Nat) : Reader (List (List Word × Statement)) :=
  match fuel with
  | 0 => return []
  | fuel + 1 => do
    let token ← readToken fuel .keyword true
    if token.isKeyword "esac" then return []
    let token ← if token.isOperator "(" then readToken fuel .plain false else pure token
    let patterns ← readPatterns fuel token []
    let clause := (patterns, (← readList fuel .clause none).getD .skip)
    let next ← readToken fuel .keyword true
    if next.isKeyword "esac" then return [clause]
    else if next.isOperator ";;" then return clause :: (← readClauses fuel)
    else unexpected next ";;"

/-- Takes a choice after `case`. -/
def readChoice (fuel : Nat) : Reader Statement :=
  match fuel with
  | 0 => return .skip
  | fuel + 1 => do
    let line ← lineNumber
    match ← readToken fuel .plain false with
    | .word subject =>
      expect fuel "in" true
      return .choice line subject (← readClauses fuel)
    | token => fail (.unexpected token.shown (some "word".toList))

/-- Takes statements up to a closing token, at least one. -/
def readInner (fuel : Nat) : Reader Statement :=
  match fuel with
  | 0 => return .skip
  | fuel + 1 => do return (← readList fuel .inner none).getD .skip

/-- Takes a statement up to its closing token, which is of its own. -/
def readEnclosed (fuel line : Nat) (token : Token) : Reader (Option Statement) :=
  match fuel with
  | 0 => return none
  | fuel + 1 => do
    match token with
    | .keyword name =>
      match String.ofList name with
      | "if" =>
        let statement ← readConditional fuel
        expect fuel "fi" false
        return some statement
      | "while" | "until" =>
        let test ← readInner fuel
        let body ← readBody fuel false
        expect fuel "done" false
        return some (.loop (name = "until".toList) test body)
      | "for" =>
        let statement ← readEach fuel
        expect fuel "done" false
        return some statement
      | "case" => return some (← readChoice fuel)
      | "\x7b" =>
        let statement ← readInner fuel
        expect fuel "\x7d" false
        return some statement
      | _ => unexpected token none
    | .operator ['('] =>
      let statement ← readInner fuel
      let closing ← readToken fuel .command false
      if !closing.isOperator ")" then unexpected closing ")"
      return some (.isolated line statement [])
    | .word _ | .redirection _ _ | .document _ _ => return none
    | _ => unexpected token none

/-- Takes one statement. -/
def readCommand (fuel : Nat) (newlines : Bool) : Reader Statement :=
  match fuel with
  | 0 => return .skip
  | fuel + 1 => do
    let token ← readToken fuel .command newlines
    let line ← lineNumber
    match ← readEnclosed fuel line token with
    | none =>
      leaveHeld token
      readSimple fuel line [] [] []
    | some statement =>
      match statement, ← readRedirects fuel with
      | statement, [] => return statement
      | .isolated line inner _, redirects => return .isolated line inner redirects
      | statement, redirects => return .redirected line statement redirects

/-- Takes the later stages of a pipeline. `sofar` is in reverse. -/
def readStages (fuel : Nat) (sofar : List Statement) : Reader (List Statement) :=
  match fuel with
  | 0 => return sofar.reverse
  | fuel + 1 => do
    let token ← readToken fuel .plain false
    if token.isOperator "|" then readStages fuel ((← readCommand fuel true) :: sofar)
    else
      leaveHeld token
      return sofar.reverse

/-- Takes a pipeline, maybe negated. -/
def readPipeline (fuel : Nat) (newlines : Bool) : Reader Statement :=
  match fuel with
  | 0 => return .skip
  | fuel + 1 => do
    let token ← readToken fuel .command newlines
    let negated := token.isKeyword "!"
    if !negated then leaveHeld token
    let first ← readCommand fuel false
    let statement : Statement :=
      match ← readStages fuel [first] with
      | [only] => only
      | stages => .pipeline stages
    return if negated then .negated statement else statement

/-- Takes the later parts of a chain of `&&` and `||`. -/
def readChain (fuel : Nat) (first : Statement) : Reader Statement :=
  match fuel with
  | 0 => return first
  | fuel + 1 => do
    let token ← readToken fuel .plain false
    if token.isOperator "&&" then readChain fuel (.both first (← readPipeline fuel true))
    else if token.isOperator "||" then readChain fuel (.either first (← readPipeline fuel true))
    else
      leaveHeld token
      return first

/-- Takes a list of statements. -/
def readList (fuel : Nat) (extent : Extent) (sofar : Option Statement) :
    Reader (Option Statement) :=
  match fuel with
  | 0 => return sofar
  | fuel + 1 => do
    let token ← readToken fuel .command (extent ≠ .line)
    match token with
    | .newline =>
      readDocuments fuel
      return sofar
    | .endOfFile =>
      readDocuments fuel
      leaveHeld token
      return sofar
    | _ =>
      leaveHeld token
      if token.closes && (extent = .clause || (extent = .inner && sofar.isSome)) then return sofar
      let statement ← readChain fuel (← readPipeline fuel false)
      let ending ← readToken fuel .plain false
      let all := join sofar (if ending.isOperator "&" then .background statement else statement)
      match ending with
      | .endOfFile =>
        readDocuments fuel
        leaveHeld ending
        return some all
      | .newline =>
        leaveHeld ending
        readList fuel extent (some all)
      | _ =>
        if ending.isOperator "&" || ending.isOperator ";" then readList fuel extent (some all)
        else if extent = .line then unexpected ending none
        else
          leaveHeld ending
          return some all

end

/-- How deep the reading of a text may go. Each of its words may be an alias. -/
def fuelFor (text : Text) (aliases : List (Text × Text)) : Nat :=
  let values := aliases.foldl (fun sum entry => sum + entry.2.length + 1) 0
  16 * (text.length + 8) * (values + 1)

/-- Takes the statements of the next line, if there is one. -/
def readLine : Reader (Option Statement) := do
  let source ← get
  let fuel := fuelFor source.rest source.aliases
  modify fun source => { source with held := none, awaited := [] }
  match ← readToken fuel .command false with
  | .endOfFile => return none
  | token =>
    leaveHeld token
    return some ((← readList fuel .line none).getD .skip)

/-- A text as if it stood between quotation marks. -/
def asQuotation (text : Text) : Option Word :=
  match (readDouble (fuelFor text []) true []).run (Source.start text [] []) with
  | .ok (word, _) => some word
  | .error _ => none

end CommandShell.Script.Reader
