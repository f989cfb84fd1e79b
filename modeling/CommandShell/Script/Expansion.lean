import CommandShell.NameSet
import CommandShell.Script.Arithmetic
import CommandShell.Script.Glob
import CommandShell.Script.Scene

/-!
Expansion: the texts that the words of a script come to.
-/

set_option autoImplicit false

namespace CommandShell.Script

/-- What words are made of before they are split. -/
inductive Atom
  /-- A character, and whether a word may be split there. -/
  | glyph (glyph : Glyph) (splits : Bool)
  /-- Something empty that is there nevertheless. -/
  | mark
  /-- The end of one argument and the beginning of the next. -/
  | fieldEnd

namespace Atom

/-- A value: outside of quotes it is split and matched with file names. -/
def ofValue (quoted : Bool) (t : Text) : List Atom :=
  t.map fun c => .glyph ⟨c, quoted⟩ (!quoted)

def glyph? : Atom → Option Glyph
  | .glyph g _ => some g
  | .mark => none
  | .fieldEnd => some ⟨' ', true⟩

/-- The text of atoms that stay together. -/
def text (atoms : List Atom) : Text := atoms.filterMap fun atom => (glyph? atom).map (·.char)

/-- What stands for a value outside of quotes is split like one. -/
def asOperand (quoted : Bool) : Atom → Atom
  | .glyph g splits => .glyph g (splits || (!quoted && !g.literal))
  | atom => atom

end Atom

/-- What splitting has come to: the words that are complete, the one at hand, and whether a blank
has just ended one. -/
structure Splitting where
  done : List Pattern
  current : Option Pattern
  afterBlank : Bool

namespace Splitting

def start : Splitting := ⟨[], none, false⟩

def add (splitting : Splitting) (glyphs : Pattern) : Splitting :=
  { splitting with current := some (splitting.current.getD [] ++ glyphs), afterBlank := false }

def close (splitting : Splitting) (afterBlank : Bool) : Splitting :=
  ⟨splitting.done ++ splitting.current.toList, none, afterBlank⟩

/-- Blanks among the separators only set words apart; any other ends a word, be it empty. -/
def take (separators : Text) (splitting : Splitting) : Atom → Splitting
  | .mark => splitting.add []
  | .fieldEnd => splitting.close false
  | .glyph glyph splits =>
    if splits && separators.contains glyph.char then
      if glyph.char ∈ [' ', '\t', '\n'] then
        if splitting.current.isSome then splitting.close true else splitting
      else if splitting.current.isSome then splitting.close false
      else if splitting.afterBlank then { splitting with afterBlank := false }
      else (splitting.add []).close false
    else splitting.add [glyph]

/-- The words that atoms are split into. -/
def words (separators : Text) (atoms : List Atom) : List Pattern :=
  ((atoms.foldl (take separators) start).close false).done

end Splitting

namespace Pattern

/-- A pattern cut at its slashes. -/
def components (pattern : Pattern) : List Pattern := stretches (·.char = '/') pattern

/-- The paths that the beginnings of paths lead on to by one more component. -/
def step (files : Files) (last : Bool) (fronts : List Text) (component : Pattern) : List Text :=
  fronts.flatMap fun front =>
    if component.isOpen then
      let directory := if front.isEmpty then ['.'] else front
      let names :=
        match files.list (toBytes directory) with
        | some names => ['.'] :: "..".toList :: names.map ofBytes
        | none => []
      let fitting := names.filter fun name =>
        (name.head? ≠ some '.' || component.head?.any (·.char = '.')) && component.covers name
      fitting.map fun name => front ++ name ++ (if last then [] else ['/'])
    else
      let path := front ++ component.text
      if last then if (files.kind (toBytes path)).isSome then [path] else []
      else [path ++ ['/']]

/-- The paths that a list of components leads to. -/
def follow (files : Files) (fronts : List Text) : List Pattern → List Text
  | [] => fronts
  | [last] => step files true fronts last
  | first :: rest => follow files (step files false fronts first) rest

/-- The paths of the files that match a pattern in order, or its own text if there are none. -/
def expandPaths (files : Files) (pattern : Pattern) : List Text :=
  if pattern.isOpen then
    let paths := follow files [[]] pattern.components
    if paths.isEmpty then [pattern.text] else NameSet.ofList paths
  else [pattern.text]

end Pattern

namespace Play

/-- Words that name the home directory by a tilde. In the value of an assignment one may stand
after each colon too. -/
def withHome (home : Bool) (assigned : Bool) : Word → Word
  | [] => []
  | part :: rest =>
    let ends := match rest with
      | [] => true
      | next :: _ => next.isBare '/' || (assigned && next.isBare ':')
    let first :=
      if home && part.isBare '~' && ends then .parameter "HOME".toList true .asIs [] else part
    first :: withHome (assigned && part.isBare ':') assigned rest

def resolveHome (assigned : Bool) (word : Word) : Play Word := do
  return if ((← get).lookup "HOME".toList).isSome then withHome true assigned word else word

/-- The values of a list of arguments as atoms. -/
def argumentAtoms (quoted joined : Bool) : Play (List Atom) := do
  let scene ← get
  if quoted && joined then
    return .mark :: Atom.ofValue true (scene.glue.intercalate scene.arguments)
  else
    let each := scene.arguments.map fun argument =>
      if quoted then .mark :: Atom.ofValue true argument else Atom.ofValue false argument
    return [Atom.fieldEnd].intercalate each

def isList (name : Text) : Bool := name = ['@'] || name = ['*']

/-- The value of a parameter as one text. -/
def wholeValue (name : Text) : Play (Option Text) := do
  let scene ← get
  if isList name then
    return if scene.arguments.isEmpty then none else some ([' '].intercalate scene.arguments)
  else return scene.value? name

/-- A value that has to be there if the script has asked for that. -/
def requireValue (name : Text) : Play Text := do
  match ← wholeValue name with
  | some value => return value
  | none =>
    if (← get).isSet 'u' && !isList name then fail (name ++ ": parameter not set".toList)
    else return []

/-- The atoms of words, without tildes. `perform` tells what a statement prints; `fuel` bounds how
deep words are nested. -/
def atoms (perform : Statement → Play Text) (fuel : Nat) (word : Word) : Play (List Atom) :=
  match fuel with
  | 0 => return []
  | fuel + 1 => do
    return (← word.mapM (partAtoms fuel)).flatten
where
  /-- The atoms of one piece. -/
  partAtoms (fuel : Nat) : Part → Play (List Atom)
    | .char c quoted => return [.glyph ⟨c, quoted⟩ false]
    | .mark => return [.mark]
    | .output statement quoted => return Atom.ofValue quoted (← perform statement)
    | .number expression quoted => do
      let text := Atom.text (← atoms perform fuel expression)
      match Arithmetic.evaluate (← get).lookup text with
      | .error fault => fail (fault.message text)
      | .ok (value, assigned) =>
        for (name, value) in assigned do
          assign name (Decimal.printInt value)
        return Atom.ofValue quoted (Decimal.printInt value)
    | .parameter name quoted adjustment operand => do
      let value ← wholeValue name
      let isThere (orEmpty : Bool) : Bool := value.any fun value => !(orEmpty && value.isEmpty)
      let own : Play (List Atom) :=
        if isList name then argumentAtoms quoted (name = ['*'])
        else do return Atom.ofValue quoted (← requireValue name)
      let operandAtoms : Play (List Atom) := do
        return (← atoms perform fuel operand).map (Atom.asOperand quoted)
      let pattern : Play Pattern := do return (← atoms perform fuel operand).filterMap Atom.glyph?
      match adjustment with
      | .asIs => own
      | .length => return Atom.ofValue quoted (Decimal.print (← requireValue name).length)
      | .orElse orEmpty => if isThere orEmpty then own else operandAtoms
      | .instead orEmpty => if isThere orEmpty then operandAtoms else return []
      | .assign orEmpty =>
        if isThere orEmpty then own
        else
          let text := Atom.text (← operandAtoms)
          if !isName name then fail (name ++ ": bad variable name".toList)
          assign name text
          return Atom.ofValue quoted text
      | .demand orEmpty =>
        if isThere orEmpty then own
        else
          let complaint := Atom.text (← operandAtoms)
          fail (name ++ ": ".toList ++
            if complaint.isEmpty then
              if orEmpty then "parameter not set or null".toList else "parameter not set".toList
            else complaint)
      | .withoutFront longest =>
        let value ← requireValue name
        return Atom.ofValue quoted ((← pattern).cutFront longest value)
      | .withoutBack longest =>
        let value ← requireValue name
        return Atom.ofValue quoted ((← pattern).cutBack longest value)
      | .unknown => fail "Bad substitution".toList

/-- How deep words may be nested. -/
def nestingLimit : Nat := 100

/-- A quotation of all arguments makes no word where there are none. -/
def dropEmptyQuotation (noArguments : Bool) (word : Word) : Word :=
  let isArguments (part : Part) : Bool := part matches .parameter ['@'] true .asIs []
  let isMark (part : Part) : Bool := part matches .mark
  if noArguments && word.any isArguments && word.all (fun part => isArguments part || isMark part)
  then []
  else word

/-- The words that a word of a command comes to. -/
def expand (perform : Statement → Play Text) (word : Word) : Play (List Text) := do
  let word ← resolveHome false (dropEmptyQuotation (← get).arguments.isEmpty word)
  let atoms ← atoms perform nestingLimit word
  let scene ← get
  let words := Splitting.words scene.separators atoms
  return words.flatMap fun word =>
    if scene.isSet 'f' then [word.text] else word.expandPaths scene.view

def expandAll (perform : Statement → Play Text) (words : List Word) : Play (List Text) := do
  return (← words.mapM (expand perform)).flatten

/-- The one text that a word comes to where it is not split. -/
def expandWhole (perform : Statement → Play Text) (assigned : Bool) (word : Word) :
    Play Text := do
  return Atom.text (← atoms perform nestingLimit (← resolveHome assigned word))

/-- The pattern that a word comes to. -/
def expandPattern (perform : Statement → Play Text) (word : Word) : Play Pattern := do
  return (← atoms perform nestingLimit (← resolveHome false word)).filterMap Atom.glyph?

end Play

end CommandShell.Script
