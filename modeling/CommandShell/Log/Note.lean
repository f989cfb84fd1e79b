import CommandShell.Error
import CommandShell.Log.Record
import CommandShell.Resolver
import CommandShell.Session.Phase
import CommandShell.Text.Quoted

/-!
What a session puts into its log, and the records that say it.
-/

set_option autoImplicit false

namespace CommandShell

inductive Note
  /-- The loop has moved on. -/
  | moved (previous next : Phase)
  | endOfInput
  /-- A line could not be carried out. -/
  | dispatchFailed (error : ShellError) (line : Text)
  | lookedUp (name : Text) (found : Option Path)
  | dispatching (command : Text) (resolution : Resolution)
  | exitArgumentsIgnored (arguments : List Text)
  | started (id : Nat) (program : Path)
  | launchFailed (command : Text) (error : LaunchError)
  | finished (command : Text)
  | finishedUnsuccessfully (command : Text) (termination : Termination)
  | lostTrack (command : Text) (error : ProcessError)
  deriving DecidableEq

/-- A value in parentheses after its kind. -/
def tagged (kind value : Text) : Text := kind ++ '(' :: value ++ [')']

/-- A resolution as the log shows it. -/
def Resolution.display : Resolution → Text
  | .builtin .echo => tagged "Builtin".toList "Echo".toList
  | .builtin .type => tagged "Builtin".toList "Type".toList
  | .builtin .exit => tagged "Builtin".toList "Exit".toList
  | .executable path => tagged "Executable".toList (Quoted.bytes path)
  | .notFound => "NotFound".toList

/-- A value that may be absent, as the log shows it. -/
def displayOption {α : Type} (display : α → Text) : Option α → Text
  | some value => tagged "Some".toList (display value)
  | none => "None".toList

namespace Note

/-- Losing sight of a program is worth a warning; all else serves to trace faults. -/
def level : Note → Level
  | .moved _ _ | .lookedUp _ _ => .trace
  | .lostTrack _ _ => .warn
  | _ => .debug

/-- The part of the program that a note comes from. -/
def target : Note → Text
  | .moved _ _ | .endOfInput | .dispatchFailed _ _ => "marrow::shell".toList
  | .lookedUp _ _ => "marrow::path::resolver".toList
  | .exitArgumentsIgnored _ => "marrow::core::commands::exit".toList
  | .started _ _ => "marrow::process::executor".toList
  | .dispatching _ _ | .launchFailed _ _ | .finished _ | .finishedUnsuccessfully _ _
  | .lostTrack _ _ => "marrow::shell::executor".toList

def message : Note → Text
  | .moved _ _ => "state".toList
  | .endOfInput => "end of input".toList
  | .dispatchFailed _ _ => "dispatch failed".toList
  | .lookedUp _ _ => "path lookup".toList
  | .dispatching _ _ => "dispatching".toList
  | .exitArgumentsIgnored _ => "exit arguments ignored".toList
  | .started _ _ => "process started".toList
  | .launchFailed _ _ => "launch failed".toList
  | .finished _ => "process finished".toList
  | .finishedUnsuccessfully _ _ => "process finished unsuccessfully".toList
  | .lostTrack _ _ => "lost track of process".toList

def fields : Note → List Field
  | .moved previous next => [⟨"previous".toList, previous.name⟩, ⟨"next".toList, next.name⟩]
  | .endOfInput => []
  | .dispatchFailed error line => [⟨"error".toList, error.message⟩, ⟨"line".toList, line⟩]
  | .lookedUp name found =>
    [⟨"name".toList, Quoted.text name⟩, ⟨"found".toList, displayOption Quoted.bytes found⟩]
  | .dispatching command resolution =>
    [⟨"command".toList, Quoted.text command⟩, ⟨"resolution".toList, resolution.display⟩]
  | .exitArgumentsIgnored arguments => [⟨"args".toList, Quoted.list arguments⟩]
  | .started id program =>
    [⟨"pid".toList, displayOption Decimal.print (some id)⟩, ⟨"program".toList, program.display⟩]
  | .launchFailed command error =>
    [⟨"command".toList, Quoted.text command⟩, ⟨"error".toList, error.message⟩]
  | .finished command => [⟨"command".toList, Quoted.text command⟩]
  | .finishedUnsuccessfully command termination =>
    [⟨"command".toList, Quoted.text command⟩, ⟨"termination".toList, termination.display⟩]
  | .lostTrack command error =>
    [⟨"command".toList, Quoted.text command⟩, ⟨"error".toList, error.message⟩]

def record (note : Note) : Record := ⟨note.level, note.target, note.message, note.fields⟩

end Note

end CommandShell
