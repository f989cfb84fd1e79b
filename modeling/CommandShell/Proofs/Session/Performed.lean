import CommandShell.Proofs.Session.Errand

/-!
Every way of carrying out an errand, as far as that goes without waiting.
-/

set_option autoImplicit false

namespace CommandShell

variable {ω σ : Type}

/-- The state after a launch. -/
def State.launched (before : State ω σ) (world : ω) (sink : σ) : State ω σ :=
  { before with world, sink, attempts := before.attempts + 1 }

namespace Session

/-- What comes of starting a program for a command. -/
def launchOf (setting : Setting ω σ) (program : Path) (command : Command) (before : State ω σ) :
    Launched ω :=
  setting.host.launch before.attempts before.world ⟨program, command.word, command.arguments⟩

/-- The flush before a launch, the attempt, and what the program writes. -/
def launching (program : Path) (command : Command) (written : Written) (phase : Phase) : Trace :=
  [⟨phase, .flushed⟩, ⟨phase, .launch ⟨program, command.word, command.arguments⟩⟩,
    ⟨phase, .performed written⟩]

/-- The note a launcher leaves of a program it has started, where the number is known. -/
def startNotes (program : Path) (process : RunningProcess) : List Note :=
  match process.id with
  | some id => [.started id program]
  | none => []

/-- The sink and the launcher decide how far an errand comes. -/
inductive Performed (setting : Setting ω σ) (command : Command) (before : State ω σ) :
    Errand → Ran ω σ ShellError Begun → Prop
  | said (speaker : Speaker) (message : Text) (after : σ)
      (taken : setting.sink.write before.sink (lineBytes message) = (none, after)) :
      Performed setting command before (.say speaker message)
        ⟨.ok (.done .goOn), { before with sink := after },
          [⟨before.phase, .wrote (lineBytes message)⟩]⟩
  | unsaid (speaker : Speaker) (message : Text) (refusal : Refusal) (after : σ)
      (refused : setting.sink.write before.sink (lineBytes message) = (some refusal, after)) :
      Performed setting command before (.say speaker message)
        ⟨.error (speaker.error refusal.reason), { before with sink := after },
          [⟨before.phase, .wrote ((lineBytes message).take refusal.taken)⟩,
            ⟨before.phase, .writeFailed⟩]⟩
  | left :
      Performed setting command before .leave ⟨.ok (.done (.exit 0)), before, []⟩
  | unflushed (program : Path) (reason : Text) (after : σ)
      (failed : setting.sink.flush before.sink = (some reason, after)) :
      Performed setting command before (.start program)
        ⟨.error (.io reason), { before with sink := after }, [⟨before.phase, .flushFailed⟩]⟩
  | refused (program : Path) (error : LaunchError) (written : Written) (world : ω)
      (flushed after : σ)
      (done : setting.sink.flush before.sink = (none, flushed))
      (launched : launchOf setting program command before = ⟨.error error, written, world⟩)
      (taken : setting.sink.write flushed (lineBytes (notFoundMessage command.word)) =
        (none, after)) :
      Performed setting command before (.start program)
        ⟨.ok (.done .goOn), before.launched world after,
          launching program command written before.phase ++
            [⟨before.phase, .noted (.launchFailed command.word error)⟩,
              ⟨before.phase, .wrote (lineBytes (notFoundMessage command.word))⟩]⟩
  | refusedUnsaid (program : Path) (error : LaunchError) (written : Written) (world : ω)
      (flushed : σ) (refusal : Refusal) (after : σ)
      (done : setting.sink.flush before.sink = (none, flushed))
      (launched : launchOf setting program command before = ⟨.error error, written, world⟩)
      (refused : setting.sink.write flushed (lineBytes (notFoundMessage command.word)) =
        (some refusal, after)) :
      Performed setting command before (.start program)
        ⟨.error (.io refusal.reason), before.launched world after,
          launching program command written before.phase ++
            [⟨before.phase, .noted (.launchFailed command.word error)⟩,
              ⟨before.phase, .wrote ((lineBytes (notFoundMessage command.word)).take refusal.taken)⟩,
              ⟨before.phase, .writeFailed⟩]⟩
  | started (program : Path) (process : RunningProcess) (written : Written) (world : ω) (flushed : σ)
      (done : setting.sink.flush before.sink = (none, flushed))
      (launched : launchOf setting program command before = ⟨.ok process, written, world⟩) :
      Performed setting command before (.start program)
        ⟨.ok (.waiting command.word process), before.launched world flushed,
          launching program command written before.phase ++
            .ofNotes before.phase (startNotes program process)⟩

theorem speak_of_taken (setting : Setting ω σ) (speaker : Speaker) (message : Text)
    (before : State ω σ) (after : σ)
    (taken : setting.sink.write before.sink (lineBytes message) = (none, after)) :
    speak setting speaker message before =
      ⟨.ok (.done .goOn), { before with sink := after },
        [⟨before.phase, .wrote (lineBytes message)⟩]⟩ := by
  rw [speak, Act.bind_apply, Act.mapError_apply, Act.writeLine_of_taken _ _ _ _ taken]
  rfl

theorem speak_of_refused (setting : Setting ω σ) (speaker : Speaker) (message : Text)
    (before : State ω σ) (refusal : Refusal) (after : σ)
    (refused : setting.sink.write before.sink (lineBytes message) = (some refusal, after)) :
    speak setting speaker message before =
      ⟨.error (speaker.error refusal.reason), { before with sink := after },
        [⟨before.phase, .wrote ((lineBytes message).take refusal.taken)⟩,
          ⟨before.phase, .writeFailed⟩]⟩ := by
  rw [speak, Act.bind_apply, Act.mapError_apply, Act.writeLine_of_refused _ _ _ _ _ refused]
  rfl

theorem speak_performed (setting : Setting ω σ) (command : Command) (speaker : Speaker)
    (message : Text) (before : State ω σ) :
    Performed setting command before (.say speaker message)
      (speak setting speaker message before) := by
  rcases answered : setting.sink.write before.sink (lineBytes message) with ⟨_ | refusal, after⟩
  · rw [speak_of_taken _ _ _ _ _ answered]
    exact .said speaker message after answered
  · rw [speak_of_refused _ _ _ _ _ _ answered]
    exact .unsaid speaker message refusal after answered

theorem startExternal_of_unflushed (setting : Setting ω σ) (program : Path) (command : Command)
    (before : State ω σ) (reason : Text) (after : σ)
    (failed : setting.sink.flush before.sink = (some reason, after)) :
    startExternal setting program command before =
      ⟨.error (.io reason), { before with sink := after }, [⟨before.phase, .flushFailed⟩]⟩ := by
  simp only [startExternal, Act.bind_apply, Act.mapError_apply, Act.flush_of_failed _ _ _ _ failed,
    mapError_error]

theorem startExternal_of_started (setting : Setting ω σ) (program : Path) (command : Command)
    (before : State ω σ) (process : RunningProcess) (written : Written) (world : ω) (flushed : σ)
    (done : setting.sink.flush before.sink = (none, flushed))
    (launched : launchOf setting program command before = ⟨.ok process, written, world⟩) :
    startExternal setting program command before =
      ⟨.ok (.waiting command.word process), before.launched world flushed,
        launching program command written before.phase ++
          .ofNotes before.phase (startNotes program process)⟩ := by
  unfold launchOf at launched
  simp only [startExternal, Act.bind_apply, Act.mapError_apply, Act.flush_of_done _ _ _ done,
    mapError_ok, Act.attempt_apply, Act.launch_apply, launched]
  cases numbered : process.id <;>
    simp [State.launched, launching, startNotes, numbered]

theorem startExternal_of_refused (setting : Setting ω σ) (program : Path) (command : Command)
    (before : State ω σ) (error : LaunchError) (written : Written) (world : ω) (flushed : σ)
    (done : setting.sink.flush before.sink = (none, flushed))
    (launched : launchOf setting program command before = ⟨.error error, written, world⟩) :
    startExternal setting program command before =
      let told := speak setting .shell (notFoundMessage command.word) (before.launched world flushed)
      ⟨told.result, told.after,
        launching program command written before.phase ++
          ⟨before.phase, .noted (.launchFailed command.word error)⟩ :: told.trace⟩ := by
  unfold launchOf at launched
  have told : (do
      reportNotFound setting command.word
      return .done .goOn) = speak setting .shell (notFoundMessage command.word) := rfl
  rw [startExternal, Act.bind_apply, Act.mapError_apply, Act.flush_of_done _ _ _ done]
  simp only [mapError_ok]
  rw [Act.bind_apply, Act.attempt_apply, Act.launch_apply, launched]
  simp only
  rw [told, Act.bind_apply, Act.note_apply]
  rfl

theorem refused_performed (setting : Setting ω σ) (program : Path) (command : Command)
    (before : State ω σ) (error : LaunchError) (written : Written) (world : ω) (flushed : σ)
    (done : setting.sink.flush before.sink = (none, flushed))
    (launched : launchOf setting program command before = ⟨.error error, written, world⟩) :
    Performed setting command before (.start program)
      (startExternal setting program command before) := by
  rw [startExternal_of_refused _ _ _ _ _ _ _ _ done launched]
  rcases answered : setting.sink.write flushed (lineBytes (notFoundMessage command.word))
    with ⟨_ | refusal, after⟩
  · rw [speak_of_taken _ _ _ (before.launched world flushed) _ answered]
    exact .refused program error written world flushed after done launched answered
  · rw [speak_of_refused _ _ _ (before.launched world flushed) _ _ answered]
    exact .refusedUnsaid program error written world flushed refusal after done launched answered

theorem perform_cases (setting : Setting ω σ) (command : Command) (errand : Errand)
    (before : State ω σ) :
    Performed setting command before errand (perform setting command errand before) := by
  cases errand with
  | say speaker message => exact speak_performed setting command speaker message before
  | leave => exact .left
  | start program =>
    change Performed setting command before _ (startExternal setting program command before)
    rcases emptied : setting.sink.flush before.sink with ⟨_ | reason, flushed⟩
    · rcases launched : launchOf setting program command before
        with ⟨error | process, written, world⟩
      · exact refused_performed _ _ _ _ _ _ _ _ emptied launched
      · rw [startExternal_of_started _ _ _ _ _ _ _ _ emptied launched]
        exact .started program process written world flushed emptied launched
    · rw [startExternal_of_unflushed _ _ _ _ _ _ emptied]
      exact .unflushed program reason flushed emptied

end Session

end CommandShell
