import CommandShell.Proofs.Session.Performed

/-!
One turn of the loop: the prompt, the line and what is told of it.
-/

set_option autoImplicit false

namespace CommandShell

/-- The line that tells of an error. -/
def reportBytes (error : ShellError) : Bytes := lineBytes ("Error: ".toList ++ error.message)

namespace Session

variable {ω σ ε : Type}

/-- How a line goes on when the program it may have started is over. -/
def Begun.outcome : Begun → Outcome
  | .done outcome => outcome
  | .waiting _ _ => .goOn

/-- What happens when the end of a program that was started is learnt. -/
def Begun.ending (phase : Phase) : Begun → Trace
  | .done _ => []
  | .waiting name process =>
    [⟨phase, .ended name⟩, ⟨phase, .noted (endNote name process.report.wait)⟩]

theorem complete_apply (begun : Begun) (before : State ω σ) :
    (complete begun : Act ω σ ε Outcome) before =
      ⟨.ok begun.outcome, before, begun.ending before.phase⟩ := by
  cases begun <;> rfl

/-- What the loop makes of a line that has been carried out. -/
def conclude (setting : Setting ω σ) (line : Text) :
    Except ShellError Outcome → Act ω σ ShellError (Option Nat)
  | .ok .goOn => return none
  | .ok (.exit code) => do
    (Act.flush setting.sink).mapError .io
    Act.enter .terminated
    return some code
  | .error error => do
    Act.note (.dispatchFailed error line)
    (Act.writeLine setting.sink ("Error: ".toList ++ error.message)).mapError .io
    return none

/-- Waits for what a line has started, and concludes the line. -/
def resume (setting : Setting ω σ) (line : Text) :
    Except ShellError Begun → Act ω σ ShellError (Option Nat)
  | .ok begun => do conclude setting line (← (complete begun).attempt)
  | .error error => conclude setting line (.error error)

theorem resume_ok (setting : Setting ω σ) (line : Text) (begun : Begun) (before : State ω σ) :
    resume setting line (.ok begun) before =
      ⟨(conclude setting line (.ok begun.outcome) before).result,
        (conclude setting line (.ok begun.outcome) before).after,
        begun.ending before.phase ++ (conclude setting line (.ok begun.outcome) before).trace⟩ := by
  rw [resume, Act.bind_apply, Act.attempt_apply, complete_apply]

theorem obeyLine_eq_conclude (setting : Setting ω σ) (line : Text) :
    obeyLine setting line = (executeLine setting line).attempt >>= conclude setting line := rfl

theorem obeyLine_eq (setting : Setting ω σ) (line : Text) :
    obeyLine setting line = (beginLine setting line).attempt >>= resume setting line := by
  funext before
  rw [obeyLine_eq_conclude, Act.bind_apply, Act.bind_apply, Act.attempt_apply, Act.attempt_apply,
    executeLine, Act.bind_apply]
  cases (beginLine setting line before).result with
  | error error => rfl
  | ok begun =>
    simp only [resume, Act.bind_apply, Act.attempt_apply, complete_apply, List.append_assoc]

theorem beginLine_of_blank (setting : Setting ω σ) (line : Text) (before : State ω σ)
    (blank : (Command.parse line).isBlank = true) :
    beginLine setting line before =
      ⟨.ok (.done .goOn), { before with phase := .parsing },
        [⟨.parsing, .noted (.moved before.phase .parsing)⟩]⟩ := by
  simp [beginLine, blank]

/-- The state in which a command is dispatched. -/
def State.dispatching (before : State ω σ) : State ω σ := { before with phase := .dispatching }

/-- A line has moved on from parsing to dispatching. -/
def entering (phase : Phase) : Trace :=
  [⟨.parsing, .noted (.moved phase .parsing)⟩, ⟨.dispatching, .noted (.moved .parsing .dispatching)⟩]

theorem beginLine_of_command (setting : Setting ω σ) (line : Text) (before : State ω σ)
    (filled : (Command.parse line).isBlank = false) :
    beginLine setting line before =
      ⟨(dispatch setting (Command.parse line) (State.dispatching before)).result,
        (dispatch setting (Command.parse line) (State.dispatching before)).after,
        entering before.phase ++
          (dispatch setting (Command.parse line) (State.dispatching before)).trace⟩ := by
  simp [beginLine, filled, State.dispatching, entering]

/-- A line that asks for something: its command is performed, its end is learnt, and the loop concludes
it. -/
theorem obeyLine_of_command (setting : Setting ω σ) (line : Text) (before : State ω σ)
    (filled : (Command.parse line).isBlank = false) :
    obeyLine setting line before =
      let command := Command.parse line
      let ready := State.dispatching before
      let ran := perform setting command (errandOf setting command ready) ready
      let last := resume setting line ran.result ran.after
      ⟨last.result, last.after,
        entering before.phase ++ opening setting command ready ++ ran.trace ++ last.trace⟩ := by
  rw [obeyLine_eq, Act.bind_apply, Act.attempt_apply, beginLine_of_command _ _ _ filled,
    dispatch_eq_perform]
  simp only [List.append_assoc]

theorem obeyLine_of_blank (setting : Setting ω σ) (line : Text) (before : State ω σ)
    (blank : (Command.parse line).isBlank = true) :
    obeyLine setting line before =
      ⟨.ok none, { before with phase := .parsing },
        [⟨.parsing, .noted (.moved before.phase .parsing)⟩]⟩ := by
  rw [obeyLine_eq, Act.bind_apply, Act.attempt_apply, beginLine_of_blank _ _ _ blank]
  rfl

/-- The sink decides whether the loop can go on. -/
inductive Concluded (setting : Setting ω σ) (line : Text) (before : State ω σ) :
    Except ShellError Outcome → Ran ω σ ShellError (Option Nat) → Prop
  | wentOn : Concluded setting line before (.ok .goOn) ⟨.ok none, before, []⟩
  | left (code : Nat) (after : σ) (done : setting.sink.flush before.sink = (none, after)) :
      Concluded setting line before (.ok (.exit code))
        ⟨.ok (some code), { before with phase := .terminated, sink := after },
          [⟨before.phase, .flushed⟩, ⟨.terminated, .noted (.moved before.phase .terminated)⟩]⟩
  | unflushed (code : Nat) (reason : Text) (after : σ)
      (failed : setting.sink.flush before.sink = (some reason, after)) :
      Concluded setting line before (.ok (.exit code))
        ⟨.error (.io reason), { before with sink := after }, [⟨before.phase, .flushFailed⟩]⟩
  | reported (error : ShellError) (after : σ)
      (taken : setting.sink.write before.sink (reportBytes error) = (none, after)) :
      Concluded setting line before (.error error)
        ⟨.ok none, { before with sink := after },
          [⟨before.phase, .noted (.dispatchFailed error line)⟩,
            ⟨before.phase, .wrote (reportBytes error)⟩]⟩
  | unreported (error : ShellError) (refusal : Refusal) (after : σ)
      (refused : setting.sink.write before.sink (reportBytes error) = (some refusal, after)) :
      Concluded setting line before (.error error)
        ⟨.error (.io refusal.reason), { before with sink := after },
          [⟨before.phase, .noted (.dispatchFailed error line)⟩,
            ⟨before.phase, .wrote ((reportBytes error).take refusal.taken)⟩,
            ⟨before.phase, .writeFailed⟩]⟩

theorem conclude_exit_of_done (setting : Setting ω σ) (line : Text) (code : Nat)
    (before : State ω σ) (after : σ) (done : setting.sink.flush before.sink = (none, after)) :
    conclude setting line (.ok (.exit code)) before =
      ⟨.ok (some code), { before with phase := .terminated, sink := after },
        [⟨before.phase, .flushed⟩, ⟨.terminated, .noted (.moved before.phase .terminated)⟩]⟩ := by
  rw [conclude, Act.bind_apply, Act.mapError_apply, Act.flush_of_done _ _ _ done]
  rfl

theorem conclude_error_of_taken (setting : Setting ω σ) (line : Text) (error : ShellError)
    (before : State ω σ) (after : σ)
    (taken : setting.sink.write before.sink (reportBytes error) = (none, after)) :
    conclude setting line (.error error) before =
      ⟨.ok none, { before with sink := after },
        [⟨before.phase, .noted (.dispatchFailed error line)⟩,
          ⟨before.phase, .wrote (reportBytes error)⟩]⟩ := by
  rw [conclude, Act.bind_apply, Act.note_apply]
  simp only [Act.bind_apply, Act.mapError_apply, Act.writeLine_of_taken _ _ _ _ taken]
  rfl

theorem conclude_error_of_refused (setting : Setting ω σ) (line : Text) (error : ShellError)
    (before : State ω σ) (refusal : Refusal) (after : σ)
    (refused : setting.sink.write before.sink (reportBytes error) = (some refusal, after)) :
    conclude setting line (.error error) before =
      ⟨.error (.io refusal.reason), { before with sink := after },
        [⟨before.phase, .noted (.dispatchFailed error line)⟩,
          ⟨before.phase, .wrote ((reportBytes error).take refusal.taken)⟩,
          ⟨before.phase, .writeFailed⟩]⟩ := by
  rw [conclude, Act.bind_apply, Act.note_apply]
  simp only [Act.bind_apply, Act.mapError_apply, Act.writeLine_of_refused _ _ _ _ _ refused]
  rfl

theorem conclude_cases (setting : Setting ω σ) (line : Text) (outcome : Except ShellError Outcome)
    (before : State ω σ) :
    Concluded setting line before outcome (conclude setting line outcome before) := by
  rcases outcome with error | _ | code
  · rcases answered : setting.sink.write before.sink (reportBytes error) with ⟨_ | refusal, after⟩
    · rw [conclude_error_of_taken _ _ _ _ _ answered]
      exact .reported error after answered
    · rw [conclude_error_of_refused _ _ _ _ _ _ answered]
      exact .unreported error refusal after answered
  · exact .wentOn
  · rcases emptied : setting.sink.flush before.sink with ⟨_ | reason, after⟩
    · rw [conclude_exit_of_done _ _ _ _ _ emptied]
      exact .left code after emptied
    · rw [conclude, Act.bind_apply, Act.mapError_apply, Act.flush_of_failed _ _ _ _ emptied]
      exact .unflushed code reason after emptied

/-- The last words of a session: a newline and a flush, each of which may fail. -/
inductive Finished (setting : Setting ω σ) (before : State ω σ) : Ran ω σ ShellError Nat → Prop
  | ended (written after : σ)
      (taken : setting.sink.write before.sink (lineBytes []) = (none, written))
      (done : setting.sink.flush written = (none, after)) :
      Finished setting before
        ⟨.ok 0, { before with phase := .terminated, sink := after },
          [⟨before.phase, .noted .endOfInput⟩, ⟨before.phase, .wrote (lineBytes [])⟩,
            ⟨before.phase, .flushed⟩, ⟨.terminated, .noted (.moved before.phase .terminated)⟩]⟩
  | unwritten (refusal : Refusal) (after : σ)
      (refused : setting.sink.write before.sink (lineBytes []) = (some refusal, after)) :
      Finished setting before
        ⟨.error (.io refusal.reason), { before with sink := after },
          [⟨before.phase, .noted .endOfInput⟩,
            ⟨before.phase, .wrote ((lineBytes []).take refusal.taken)⟩,
            ⟨before.phase, .writeFailed⟩]⟩
  | unflushed (written : σ) (reason : Text) (after : σ)
      (taken : setting.sink.write before.sink (lineBytes []) = (none, written))
      (failed : setting.sink.flush written = (some reason, after)) :
      Finished setting before
        ⟨.error (.io reason), { before with sink := after },
          [⟨before.phase, .noted .endOfInput⟩, ⟨before.phase, .wrote (lineBytes [])⟩,
            ⟨before.phase, .flushFailed⟩]⟩

theorem finish_of_done (setting : Setting ω σ) (before : State ω σ) (written after : σ)
    (taken : setting.sink.write before.sink (lineBytes []) = (none, written))
    (done : setting.sink.flush written = (none, after)) :
    finish setting before =
      ⟨.ok 0, { before with phase := .terminated, sink := after },
        [⟨before.phase, .noted .endOfInput⟩, ⟨before.phase, .wrote (lineBytes [])⟩,
          ⟨before.phase, .flushed⟩, ⟨.terminated, .noted (.moved before.phase .terminated)⟩]⟩ := by
  have flushed := Act.flush_of_done setting.sink { before with sink := written } after done
  simp only [finish, Act.bind_apply, Act.note_apply, Act.mapError_apply,
    Act.writeLine_of_taken _ _ _ _ taken, mapError_ok, flushed]
  rfl

theorem finish_of_refused (setting : Setting ω σ) (before : State ω σ) (refusal : Refusal) (after : σ)
    (refused : setting.sink.write before.sink (lineBytes []) = (some refusal, after)) :
    finish setting before =
      ⟨.error (.io refusal.reason), { before with sink := after },
        [⟨before.phase, .noted .endOfInput⟩,
          ⟨before.phase, .wrote ((lineBytes []).take refusal.taken)⟩,
          ⟨before.phase, .writeFailed⟩]⟩ := by
  simp only [finish, Act.bind_apply, Act.note_apply, Act.mapError_apply,
    Act.writeLine_of_refused _ _ _ _ _ refused, mapError_error]
  rfl

theorem finish_cases (setting : Setting ω σ) (before : State ω σ) :
    Finished setting before (finish setting before) := by
  rcases answered : setting.sink.write before.sink (lineBytes []) with ⟨_ | refusal, written⟩
  · rcases emptied : setting.sink.flush written with ⟨_ | reason, after⟩
    · rw [finish_of_done _ _ _ _ answered emptied]
      exact .ended written after answered emptied
    · have unflushed :=
        Act.flush_of_failed setting.sink { before with sink := written } reason after emptied
      rw [finish, Act.bind_apply, Act.note_apply]
      simp only [Act.bind_apply, Act.mapError_apply, Act.writeLine_of_taken _ _ _ _ answered,
        mapError_ok, mapError_error, unflushed]
      exact .unflushed written reason after answered emptied
  · rw [finish_of_refused _ _ _ _ answered]
    exact .unwritten refusal written answered

/-- The state in which a reading is obeyed: the prompt has been shown, and what changed meanwhile has
changed. -/
def arranged (item : Item ω σ) (before : State ω σ) (flushed : σ) : State ω σ :=
  ⟨.idle, item.world.getD before.world, item.adjust flushed, before.attempts⟩

/-- The loop has moved to its idle state. -/
def resting (phase : Phase) : Moment := ⟨.idle, .noted (.moved phase .idle)⟩

theorem awaitLine_of_done (setting : Setting ω σ) (before : State ω σ) (flushed : σ)
    (done : setting.sink.flush before.sink = (none, flushed)) :
    awaitLine setting before =
      ⟨.ok (), { before with phase := .idle, sink := flushed },
        [resting before.phase, ⟨.idle, .flushed⟩, ⟨.idle, .prompt setting.prompt⟩]⟩ := by
  have emptied := Act.flush_of_done setting.sink { before with phase := .idle } flushed done
  simp only [awaitLine, Act.bind_apply, Act.enter_apply, Act.mapError_apply, emptied,
    mapError_ok]
  rfl

theorem awaitLine_of_failed (setting : Setting ω σ) (before : State ω σ) (reason : Text) (after : σ)
    (failed : setting.sink.flush before.sink = (some reason, after)) :
    awaitLine setting before =
      ⟨.error (.io reason), { before with phase := .idle, sink := after },
        [resting before.phase, ⟨.idle, .flushFailed⟩]⟩ := by
  have unflushed := Act.flush_of_failed setting.sink { before with phase := .idle } reason after failed
  simp only [awaitLine, Act.bind_apply, Act.enter_apply, Act.mapError_apply, unflushed,
    mapError_error]
  rfl

theorem turn_of_done (setting : Setting ω σ) (item : Item ω σ) (before : State ω σ) (flushed : σ)
    (done : setting.sink.flush before.sink = (none, flushed)) :
    turn setting item before =
      let obeyed := obey setting item.reading (arranged item before flushed)
      ⟨obeyed.result, obeyed.after,
        resting before.phase :: ⟨.idle, .flushed⟩ :: ⟨.idle, .prompt setting.prompt⟩ ::
          obeyed.trace⟩ := by
  rw [turn, Act.bind_apply, awaitLine_of_done _ _ _ done]
  rfl

theorem turn_of_failed (setting : Setting ω σ) (item : Item ω σ) (before : State ω σ) (reason : Text)
    (after : σ) (failed : setting.sink.flush before.sink = (some reason, after)) :
    turn setting item before =
      ⟨.error (.io reason), { before with phase := .idle, sink := after },
        [resting before.phase, ⟨.idle, .flushFailed⟩]⟩ := by
  rw [turn, Act.bind_apply, awaitLine_of_failed _ _ _ _ failed]

end Session

end CommandShell
