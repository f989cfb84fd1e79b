import CommandShell.Script.Variables

/-!
Taking the options of a script off its arguments, one letter at a time.
-/

set_option autoImplicit false

namespace CommandShell.Script

/-- Whether a letter stands for an option that has an argument, if it stands for one. A colon behind
a letter says so. -/
def takesArgument? (c : Char) : Text → Option Bool
  | [] => none
  | [d] => if d = c then some false else none
  | d :: ':' :: rest => if d = c then some true else takesArgument? c rest
  | d :: e :: rest => if d = c then some false else takesArgument? c (e :: rest)

/-- The letters that are left of the present argument, and the number of the next one. Without any
left the number is all there is. -/
def nextLetters (words : List Text) (index offset : Nat) : Text × Nat :=
  let current := if index ≤ 1 || offset = 0 then [] else (words[index - 2]?).getD []
  match current.drop offset, words[index - 1]? with
  | [], some ['-', '-'] => ([], index + 1)
  | [], some ('-' :: letters) => if letters.isEmpty then ([], index) else (letters, index + 1)
  | [], _ => ([], index)
  | left, _ => (left, index)

namespace Play

/-- Leaves the argument of an option, or nothing. -/
def setArgument : Option Text → Play Unit
  | some value => assign "OPTARG".toList value
  | none => modify (·.unbind "OPTARG".toList)

/-- What is found for a letter, the letters left after it, and the number of the next argument. The
letters are over where the argument of an option was taken. -/
def takeLetter (known : Text) (words : List Text) (c : Char) (left : Text) (index : Nat) :
    Play (Char × Option Text × Nat) := do
  let silent := known.head? = some ':'
  let complaint (text : Text) (shown : Char) : Play (Char × Option Text × Nat) := do
    if silent then setArgument (some [c])
    else
      printError (text ++ ['\n'])
      setArgument none
    return (shown, some left, index)
  match takesArgument? c known with
  | none => complaint ("Illegal option -".toList ++ [c]) '?'
  | some false =>
    setArgument (some [])
    return (c, some left, index)
  | some true =>
    if !left.isEmpty then
      setArgument (some left)
      return (c, none, index)
    else
      match words[index - 1]? with
      | some value =>
        setArgument (some value)
        return (c, none, index + 1)
      | none =>
        complaint ("No arg for -".toList ++ c :: " option".toList) (if silent then ':' else '?')

/-- Takes the next option, and fails where there is none. -/
def getopts (arguments : List Text) : Play Nat := do
  match arguments with
  | known :: name :: given =>
    let scene ← get
    let words := if given.isEmpty then scene.arguments else given
    let wanted := ((scene.lookup "OPTIND".toList).bind fun t => (Decimal.parse t).toOption).getD 1
    let index := if wanted = 0 || wanted > words.length + 1 then 1 else wanted
    let offset := if scene.letterPlace.1 = index then scene.letterPlace.2 else 0
    let (letters, index) := nextLetters words index offset
    let (shown, left, index) ←
      match letters with
      | [] => pure ('?', none, index)
      | c :: left => takeLetter known words c left index
    assign "OPTIND".toList (Decimal.print index)
    assign name [shown]
    let offset := (left.map fun left => ((words[index - 2]?).getD []).length - left.length).getD 0
    modify fun scene => { scene with letterPlace := (index, offset) }
    return if letters.isEmpty then 1 else 0
  | _ => fail "Usage: getopts optstring var [arg]".toList

end Play

end CommandShell.Script
