import CommandShell.Log.Filter
import CommandShell.Options.Parse
import CommandShell.Terminal

/-!
The shell as a program: its arguments, its environment and its input decide what it writes and how
it exits.
-/

set_option autoImplicit false

namespace CommandShell

/-- What the program leaves behind. -/
structure Finished where
  code : Nat
  output : Bytes
  diagnostics : List Diagnostic

namespace Program

/-- The filter the environment names, if it is one, or the level the options ask for. -/
def filter (machine : Machine) (options : Options) : Filter :=
  (((machine.get "MARROW_LOG").bind Utf8.decode).bind Filter.parse).getD
    (.upTo options.logLevel)

/-- Whether a diagnostic is shown. -/
def shows (filter : Filter) : Diagnostic → Bool
  | .record record => filter.admits record
  | .raw _ => true

/-- The last word of a program that fails. -/
def farewell (error : ShellError) : Diagnostic :=
  .raw (Utf8.encode ("marrow: ".toList ++ error.message ++ ['\n']))

/-- What the program leaves behind after a session. -/
def report {ω σ : Type} (machine : Machine) (options : Options) (ran : Ran ω σ ShellError Nat) :
    Finished :=
  let shown := (Terminal.diagnostics ran.trace).filter (shows (filter machine options))
  let output := Terminal.output machine ran.trace
  match ran.result with
  | .ok code => ⟨code, output, shown⟩
  | .error error => ⟨1, output, shown ++ [farewell error]⟩

/-- Runs the program with options. -/
def runWith (machine : Machine) (options : Options) (input : Bytes) : Finished :=
  report machine options (Terminal.run machine .environment options.config.prompt input)

/-- Whether the environment wants messages to stand out although there is no terminal. -/
def standsOut (machine : Machine) : Bool :=
  let isSet (name : String) : Bool := (machine.get name).any (!·.isEmpty)
  isSet "CLICOLOR_FORCE" && !isSet "NO_COLOR"

/-- Runs the program on a machine. -/
def run (machine : Machine) (arguments : List Bytes) (input : Bytes) : Finished :=
  let inherited := machine.get "MARROW_HISTORY_SIZE"
  match Options.parse inherited arguments with
  | .ok options => runWith machine options input
  | .error error =>
    let shown := Utf8.encode
      (if standsOut machine then error.emphasized inherited else error.display inherited)
    if error.isAnswer then ⟨error.exitCode, shown, []⟩
    else ⟨error.exitCode, [], [.raw shown]⟩

end Program

end CommandShell
