import CommandShell.Proofs.Session.Acts

/-!
What a command asks for, told from the command and what is around it alone.
-/

set_option autoImplicit false

namespace CommandShell

/-- Who has something to say for a line: the builtin it runs, or the shell itself. -/
inductive Speaker
  | builtin
  | shell
  deriving DecidableEq

/-- What becomes of the reason why a message was refused. -/
def Speaker.error (speaker : Speaker) (reason : Text) : ShellError :=
  match speaker with
  | .builtin => .command (.io reason)
  | .shell => .io reason

inductive Errand
  | say (speaker : Speaker) (message : Text)
  | leave
  | start (program : Path)
  deriving DecidableEq

def notFoundMessage (name : Text) : Text := name ++ ": command not found".toList

/-- The one line that answers a question for a name: builtins first, then the search path. -/
def answer (source : PathSource) (around : Surroundings) (name : Text) : Text :=
  if (Builtin.find? name).isSome then name ++ " is a shell builtin".toList
  else match source.findInPath around name with
    | some path => name ++ " is ".toList ++ path.display
    | none => name ++ ": not found".toList

/-- What a command asks for. It depends on what is around, and on nothing the session has done. -/
def Errand.of (source : PathSource) (around : Surroundings) (command : Command) : Errand :=
  match source.resolve around command.word with
  | .builtin .echo => .say .builtin ([' '].intercalate command.arguments)
  | .builtin .type =>
    match command.arguments with
    | [] => .say .shell "type: missing argument".toList
    | name :: _ => .say .builtin (answer source around name)
  | .builtin .exit => .leave
  | .executable path => .start path
  | .notFound =>
    if command.word.head? = some '/' then .start (Utf8.encode command.word)
    else .say .shell (notFoundMessage command.word)

namespace Session

theorem described_resolve (source : PathSource) (around : Surroundings) (name : Text) :
    described name (source.resolve around name) = answer source around name := by
  unfold answer PathSource.resolve
  by_cases empty : name = []
  · subst empty
    rfl
  · have filled : name.isEmpty = false := by simpa using empty
    simp only [filled, Bool.false_eq_true, ↓reduceIte]
    cases Builtin.find? name with
    | some builtin => rfl
    | none => cases source.findInPath around name <;> rfl

/-- The note a lookup leaves. A builtin is found without one. -/
def lookupNotes (name : Text) : Resolution → List Note
  | .builtin _ => []
  | .executable path => [.lookedUp name (some path)]
  | .notFound => [.lookedUp name none]

/-- The notes made before a command has any effect. -/
def openingNotes (source : PathSource) (around : Surroundings) (command : Command) : List Note :=
  let resolution := source.resolve around command.word
  lookupNotes command.word resolution ++ .dispatching command.word resolution ::
    match resolution, command.arguments with
    | .builtin .type, name :: _ => lookupNotes name (source.resolve around name)
    | .builtin .exit, first :: others => [.exitArgumentsIgnored (first :: others)]
    | _, _ => []

variable {ω σ ε : Type}

theorem classify_apply (setting : Setting ω σ) (name : Text) (before : State ω σ) :
    (classify setting name : Act ω σ ε Resolution) before =
      ⟨.ok (setting.source.resolve (setting.host.look before.world) name), before,
        .ofNotes before.phase
          (lookupNotes name (setting.source.resolve (setting.host.look before.world) name))⟩ := by
  simp only [classify, Act.bind_apply, Act.look_apply]
  cases setting.source.resolve (setting.host.look before.world) name <;> rfl

/-- Says something on a line of its own. -/
def speak (setting : Setting ω σ) (speaker : Speaker) (message : Text) :
    Act ω σ ShellError Begun := do
  (Act.writeLine setting.sink message).mapError speaker.error
  return .done .goOn

/-- Carries out an errand, as far as that goes without waiting. -/
def perform (setting : Setting ω σ) (command : Command) : Errand → Act ω σ ShellError Begun
  | .say speaker message => speak setting speaker message
  | .leave => return .done (.exit 0)
  | .start program => startExternal setting program command

def errandOf (setting : Setting ω σ) (command : Command) (before : State ω σ) : Errand :=
  .of setting.source (setting.host.look before.world) command

def opening (setting : Setting ω σ) (command : Command) (before : State ω σ) : Trace :=
  .ofNotes before.phase (openingNotes setting.source (setting.host.look before.world) command)

theorem done_of_said (setting : Setting ω σ) (speaker : Speaker) (message : Text) :
    (do
      let outcome ← (do
        (Act.writeLine setting.sink message).mapError speaker.error
        return .goOn : Act ω σ ShellError Outcome)
      return .done outcome) = speak setting speaker message := by
  simp only [speak, bind_assoc, pure_bind]

theorem dispatchBuiltin_echo (setting : Setting ω σ) (arguments : List Text) :
    dispatchBuiltin setting .echo arguments = (do
      (Act.writeLine setting.sink ([' '].intercalate arguments)).mapError Speaker.builtin.error
      return .goOn) := by
  funext before
  simp only [dispatchBuiltin, runBuiltin, echo, Act.bind_apply, Act.attempt_apply,
    Act.mapError_apply]
  cases (Act.writeLine setting.sink ([' '].intercalate arguments) before).result with
  | error reason => simp [Speaker.error]
  | ok value => simp

theorem dispatchBuiltin_type_nil (setting : Setting ω σ) :
    dispatchBuiltin setting .type [] = (do
      (Act.writeLine setting.sink "type: missing argument".toList).mapError Speaker.shell.error
      return .goOn) := rfl

theorem dispatchBuiltin_type_cons (setting : Setting ω σ) (name : Text) (others : List Text) :
    dispatchBuiltin setting .type (name :: others) = (do
      let resolution ← classify setting name
      (Act.writeLine setting.sink (described name resolution)).mapError Speaker.builtin.error
      return .goOn) := by
  funext before
  simp only [dispatchBuiltin, runBuiltin, type, Act.bind_apply, Act.attempt_apply,
    Act.mapError_apply, classify_apply]
  cases (Act.writeLine setting.sink (described name
      (setting.source.resolve (setting.host.look before.world) name)) before).result with
  | error reason => simp [Speaker.error]
  | ok value => simp

theorem dispatchBuiltin_exit (setting : Setting ω σ) (arguments : List Text) (before : State ω σ) :
    dispatchBuiltin setting .exit arguments before =
      ⟨.ok (.exit 0), before,
        .ofNotes before.phase
          (if arguments.isEmpty then [] else [.exitArgumentsIgnored arguments])⟩ := by
  cases arguments <;> rfl

/-- What follows the opening notes of a command, once it is told what its word stands for. -/
def effect (setting : Setting ω σ) (command : Command) : Resolution → Act ω σ ShellError Begun
  | .builtin builtin => do return .done (← dispatchBuiltin setting builtin command.arguments)
  | .executable path => startExternal setting path command
  | .notFound =>
    if command.word.head? = some '/' then
      startExternal setting (Utf8.encode command.word) command
    else do
      reportNotFound setting command.word
      return .done .goOn

theorem dispatch_apply (setting : Setting ω σ) (command : Command) (before : State ω σ) :
    dispatch setting command before =
      let resolution := setting.source.resolve (setting.host.look before.world) command.word
      ⟨(effect setting command resolution before).result,
        (effect setting command resolution before).after,
        .ofNotes before.phase
            (lookupNotes command.word resolution ++ [.dispatching command.word resolution]) ++
          (effect setting command resolution before).trace⟩ := by
  simp only [dispatch, Act.bind_apply, classify_apply, Act.note_apply]
  cases setting.source.resolve (setting.host.look before.world) command.word <;> simp [effect]

/-- A command is carried out by its errand alone; all that goes before are notes. -/
theorem dispatch_eq_perform (setting : Setting ω σ) (command : Command) (before : State ω σ) :
    dispatch setting command before =
      ⟨(perform setting command (errandOf setting command before) before).result,
        (perform setting command (errandOf setting command before) before).after,
        opening setting command before ++
          (perform setting command (errandOf setting command before) before).trace⟩ := by
  rw [dispatch_apply]
  obtain ⟨word, arguments⟩ := command
  simp only [errandOf, Errand.of, opening, openingNotes]
  cases setting.source.resolve (setting.host.look before.world) word with
  | builtin builtin =>
    cases builtin with
    | echo => simp only [effect, dispatchBuiltin_echo, done_of_said, perform]
    | type =>
      cases arguments with
      | nil => simp only [effect, dispatchBuiltin_type_nil, done_of_said, perform]
      | cons name others =>
        simp only [effect, dispatchBuiltin_type_cons, bind_assoc, pure_bind, perform, speak]
        rw [Act.bind_apply, classify_apply]
        simp only [described_resolve, Trace.ofNotes_append, Trace.ofNotes_cons, Trace.ofNotes_nil,
          List.append_assoc, List.cons_append, List.nil_append]
    | exit => cases arguments <;> simp [effect, dispatchBuiltin_exit, perform]
  | executable path => simp only [effect, perform]
  | notFound =>
    by_cases rooted : word.head? = some '/'
    · simp only [effect, rooted, ↓reduceIte, perform]
    · simp only [effect, rooted, ↓reduceIte, perform]
      rfl

end Session

end CommandShell
