import CommandShell.Options.Basic
import CommandShell.Text.Emphasis

/-!
The options the command line knows, and the texts that explain them.
-/

set_option autoImplicit false

namespace CommandShell

inductive Switch
  | quiet
  | debug
  | historySize
  | noCompletion
  | help
  | version
  deriving DecidableEq

namespace Switch

def all : List Switch := [.quiet, .debug, .historySize, .noCompletion, .help, .version]

/-- The options that say something about the session. -/
def settings : List Switch := [.quiet, .debug, .historySize, .noCompletion]

def long : Switch → Text
  | .quiet => "quiet".toList
  | .debug => "debug".toList
  | .historySize => "history-size".toList
  | .noCompletion => "no-completion".toList
  | .help => "help".toList
  | .version => "version".toList

def short : Switch → Option Char
  | .quiet => some 'q'
  | .debug => some 'd'
  | .help => some 'h'
  | .version => some 'V'
  | .historySize | .noCompletion => none

def takesValue (switch : Switch) : Bool := switch == .historySize

def ofLong? (name : Text) : Option Switch := all.find? (·.long = name)

def ofShort? (c : Char) : Option Switch := all.find? (·.short = some c)

def flag (switch : Switch) : Text := "--".toList ++ switch.long

/-- What stands for the value of an option. -/
def placeholder (switch : Switch) : Text :=
  if switch.takesValue then " <HISTORY_SIZE>".toList else []

/-- An option as messages name it. -/
def shown (switch : Switch) : Text := switch.flag ++ switch.placeholder

/-- An option as a terminal shows it. -/
def emphasized (switch : Switch) : Text := Emphasis.literal.mark switch.flag ++ switch.placeholder

def explanation : Switch → Text
  | .quiet => "Only log errors".toList
  | .debug => "Enable debug output".toList
  | .historySize => "Number of lines kept in the in-memory history".toList
  | .noCompletion => "Disable tab completion of commands and file names".toList
  | .help => "Print help".toList
  | .version => "Print version".toList

end Switch

/-- How the program is called, as far as an error needs it. -/
inductive Usage
  /-- With the options named, or any if none is. -/
  | naming (switches : List Switch)
  /-- With some of the settings, and maybe another option before them. -/
  | anySetting (other : Option Switch)
  deriving DecidableEq

namespace Usage

def general : Usage := .naming []

def programName : Text := "marrow".toList

/-- The words after the program's name, as a terminal shows them. -/
def words : Usage → List Text
  | .naming [] => ["[OPTIONS]".toList]
  | .naming switches => switches.map Switch.emphasized
  | .anySetting other =>
    (other.map Switch.emphasized).toList ++
      ['<' :: "|".toList.intercalate (Switch.settings.map Switch.shown) ++ ['>']]

/-- The line on how the program is called, as a terminal shows it. -/
def emphasized (usage : Usage) : Text :=
  " ".toList.intercalate
    (Emphasis.heading.mark "Usage:".toList :: Emphasis.literal.mark programName :: usage.words)

end Usage

namespace Help

def version : Text := Usage.programName ++ " 0.0.1\n".toList

/-- The width of the column that names the options. -/
def nameWidth : Nat := (Switch.all.map (·.shown.length)).foldl max 0

/-- Where the explanations start. -/
def margin : Nat := "  -q, ".length + nameWidth + 2

/-- A value inside the help: its further lines are indented. -/
def indented (value : Text) : Text :=
  value.flatMap fun c => if c = '\n' then '\n' :: List.replicate margin ' ' else [c]

/-- What follows an explanation: the environment's value for the option, and the default. -/
def sources (inherited : Option Bytes) : Switch → Text
  | .historySize =>
    " [env: MARROW_HISTORY_SIZE=".toList ++ indented (Utf8.lossy (inherited.getD []))
      ++ "] [default: ".toList ++ Decimal.print defaultHistorySize ++ "]".toList
  | _ => []

def line (inherited : Option Bytes) (switch : Switch) : Text :=
  let letter :=
    match switch.short with
    | some c => "  ".toList ++ Emphasis.literal.mark ['-', c] ++ ", ".toList
    | none => "      ".toList
  letter ++ switch.emphasized ++ List.replicate (nameWidth - switch.shown.length + 2) ' '
    ++ switch.explanation ++ sources inherited switch ++ ['\n']

/-- The whole help as a terminal shows it, given the environment's value for the history size. A
control sequence that this leaves open ends where the next option's name stands out. -/
def emphasized (inherited : Option Bytes) : Text :=
  Usage.programName ++ " - a minimal interactive command interpreter\n\n".toList
    ++ Usage.general.emphasized ++ "\n\n".toList ++ Emphasis.heading.mark "Options:".toList
    ++ ['\n'] ++ Switch.all.flatMap (line inherited)

end Help

end CommandShell
