import CommandShell.Options.Usage

/-!
What a command line can be answered with instead of a session.
-/

set_option autoImplicit false

namespace CommandShell

inductive UsageError
  /-- The help was asked for. -/
  | help
  /-- The version was asked for. -/
  | version
  /-- An argument that is no option; `similar` is the option that may have been meant. -/
  | unknown (shown : Text) (similar : Option Switch) (usage : Usage)
  | repeated (switch : Switch)
  | conflict (first second : Switch) (usage : Usage)
  | missingValue (switch : Switch)
  | invalidValue (switch : Switch) (value : Text) (fault : Decimal.Fault)
  | surplusValue (switch : Switch) (shown : Text) (usage : Usage)
  /-- A value is not UTF-8. -/
  | notText
  deriving DecidableEq

namespace UsageError

/-- What is wrong, as a terminal shows it. -/
def complaint : UsageError → Text
  | .help | .version => []
  | .unknown shown _ _ =>
    "unexpected argument ".toList ++ Emphasis.wrong.quote shown ++ " found".toList
  | .repeated switch =>
    "the argument ".toList ++ Emphasis.wrong.quote switch.shown
      ++ " cannot be used multiple times".toList
  | .conflict first second _ =>
    "the argument ".toList ++ Emphasis.wrong.quote first.shown ++ " cannot be used with ".toList
      ++ Emphasis.wrong.quote second.shown
  | .missingValue switch =>
    "a value is required for ".toList ++ Emphasis.wrong.quote switch.shown
      ++ " but none was supplied".toList
  | .invalidValue switch value fault =>
    "invalid value ".toList ++ Emphasis.wrong.quote value ++ " for ".toList
      ++ Emphasis.literal.quote switch.shown ++ ": ".toList ++ fault.message
  | .surplusValue switch shown _ =>
    "unexpected value ".toList ++ Emphasis.wrong.quote shown ++ " for ".toList
      ++ Emphasis.literal.quote switch.shown ++ " found; no more were expected".toList
  | .notText => "invalid UTF-8 was detected in one or more arguments".toList

/-- How the program is called, where the complaint is about the call as a whole. -/
def usage? : UsageError → Option Usage
  | .unknown _ _ usage | .conflict _ _ usage | .surplusValue _ _ usage => some usage
  | .repeated _ | .notText => some .general
  | .help | .version | .missingValue _ | .invalidValue _ _ _ => none

def similar? : UsageError → Option Switch
  | .unknown _ similar _ => similar
  | _ => none

/-- Whether the answer is what was asked for. -/
def isAnswer (error : UsageError) : Bool := error = .help || error = .version

/-- All there is to say, as a terminal shows it, given the environment's value for the history
size. -/
def emphasized (inherited : Option Bytes) (error : UsageError) : Text :=
  match error with
  | .help => Help.emphasized inherited
  | .version => Help.version
  | _ =>
    let tip :=
      match error.similar? with
      | some switch =>
        "\n\n  ".toList ++ Emphasis.right.mark "tip:".toList
          ++ " a similar argument exists: ".toList ++ Emphasis.right.quote switch.flag
      | none => []
    let usage :=
      match error.usage? with
      | some usage => "\n\n".toList ++ usage.emphasized
      | none => []
    Emphasis.alarm.mark "error:".toList ++ ' ' :: error.complaint ++ tip ++ usage
      ++ "\n\nFor more information, try ".toList ++ Emphasis.literal.quote Switch.help.flag
      ++ ".\n".toList

/-- All there is to say where there is no terminal: control sequences are stripped, those that came
with the arguments too. -/
def display (inherited : Option Bytes) (error : UsageError) : Text :=
  ControlSequence.strip (error.emphasized inherited)

def exitCode (error : UsageError) : Nat := if error.isAnswer then 0 else 2

end UsageError

end CommandShell
