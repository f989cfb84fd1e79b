import CommandShell.Proofs.Session.Turns
import CommandShell.Proofs.Session.Uses
import CommandShell.Proofs.Words

/-!
Every course a turn can take, told by what the sink does in it.
-/

set_option autoImplicit false

namespace CommandShell

variable {ω σ : Type}

namespace Session

/-- How a sink fails a command: what it does for the command, what it takes of the message, the error
that comes of it, and how it is left. Nothing is written where a flush fails. -/
inductive Fails (setting : Setting ω σ) (command : Command) (before : State ω σ) :
    Errand → List Operation → Bytes → ShellError → σ → Prop
  | unsaid (speaker : Speaker) (message : Text) (refusal : Refusal) (after : σ)
      (refused : setting.sink.write before.sink (lineBytes message) = (some refusal, after)) :
      Fails setting command before (.say speaker message)
        [⟨.line, .wrote ((lineBytes message).take refusal.taken)⟩, ⟨.line, .writeFailed⟩]
        ((lineBytes message).take refusal.taken) (speaker.error refusal.reason) after
  | unflushed (program : Path) (reason : Text) (after : σ)
      (failed : setting.sink.flush before.sink = (some reason, after)) :
      Fails setting command before (.start program) [⟨.line, .flushFailed⟩] [] (.io reason) after
  | refusedUnsaid (program : Path) (error : LaunchError) (flushed : σ) (refusal : Refusal) (after : σ)
      (done : setting.sink.flush before.sink = (none, flushed))
      (launched : (launchOf setting program command before).outcome = .error error)
      (refused : setting.sink.write flushed (lineBytes (notFoundMessage command.word)) =
        (some refusal, after)) :
      Fails setting command before (.start program)
        [⟨.line, .flushed⟩,
          ⟨.line, .wrote ((lineBytes (notFoundMessage command.word)).take refusal.taken)⟩,
          ⟨.line, .writeFailed⟩]
        ((lineBytes (notFoundMessage command.word)).take refusal.taken) (.io refusal.reason) after

/-- How a sink serves a command, where it does not fail it, and how it is left. -/
inductive Served (setting : Setting ω σ) (command : Command) (before : State ω σ) :
    Errand → List Operation → σ → Prop
  | said (speaker : Speaker) (message : Text) (after : σ)
      (taken : setting.sink.write before.sink (lineBytes message) = (none, after)) :
      Served setting command before (.say speaker message)
        [⟨.line, .wrote (lineBytes message)⟩] after
  | refused (program : Path) (error : LaunchError) (flushed after : σ)
      (done : setting.sink.flush before.sink = (none, flushed))
      (launched : (launchOf setting program command before).outcome = .error error)
      (taken : setting.sink.write flushed (lineBytes (notFoundMessage command.word)) =
        (none, after)) :
      Served setting command before (.start program)
        [⟨.line, .flushed⟩, ⟨.line, .wrote (lineBytes (notFoundMessage command.word))⟩] after
  | started (program : Path) (process : RunningProcess) (flushed : σ)
      (done : setting.sink.flush before.sink = (none, flushed))
      (launched : (launchOf setting program command before).outcome = .ok process) :
      Served setting command before (.start program) [⟨.line, .flushed⟩] flushed

/-- The one attempt to tell of an error: what the sink does and takes, how the turn ends, and how the sink
is left. -/
inductive Reported (sink : Sink σ) (before : σ) (error : ShellError) :
    List Operation → Bytes → Except ShellError (Option Nat) → σ → Prop
  | whole (after : σ) (taken : sink.write before (reportBytes error) = (none, after)) :
      Reported sink before error
        [⟨.report, .wrote (reportBytes error)⟩] (reportBytes error) (.ok none) after
  | cut (refusal : Refusal) (after : σ)
      (refused : sink.write before (reportBytes error) = (some refusal, after)) :
      Reported sink before error
        [⟨.report, .wrote ((reportBytes error).take refusal.taken)⟩, ⟨.report, .writeFailed⟩]
        ((reportBytes error).take refusal.taken) (.error (.io refusal.reason)) after

/-- What a reading comes to, from the state in which it is obeyed, and how the sink is left. -/
inductive Answered (setting : Setting ω σ) (before : State ω σ) :
    Reading → Except ShellError (Option Nat) → List Operation → σ → Prop
  | interrupted : Answered setting before .interrupted (.ok none) [] before.sink
  | blank (text : Text) (blank : text.isBlank = true) :
      Answered setting before (.line text) (.ok none) [] before.sink
  | unread (cause : InputError) :
      Answered setting before (.failed cause) (.error (.input cause)) [] before.sink
  | ended (written after : σ)
      (taken : setting.sink.write before.sink (lineBytes []) = (none, written))
      (done : setting.sink.flush written = (none, after)) :
      Answered setting before .endOfInput (.ok (some 0))
        [⟨.farewell, .wrote (lineBytes [])⟩, ⟨.farewell, .flushed⟩] after
  | unwritten (refusal : Refusal) (after : σ)
      (refused : setting.sink.write before.sink (lineBytes []) = (some refusal, after)) :
      Answered setting before .endOfInput (.error (.io refusal.reason))
        [⟨.farewell, .wrote ((lineBytes []).take refusal.taken)⟩, ⟨.farewell, .writeFailed⟩] after
  | unflushed (written : σ) (reason : Text) (after : σ)
      (taken : setting.sink.write before.sink (lineBytes []) = (none, written))
      (failed : setting.sink.flush written = (some reason, after)) :
      Answered setting before .endOfInput (.error (.io reason))
        [⟨.farewell, .wrote (lineBytes [])⟩, ⟨.farewell, .flushFailed⟩] after
  | done (text : Text) (operations : List Operation) (after : σ) (filled : text.isBlank = false)
      (served : Served setting (Command.parse text) before
        (errandOf setting (Command.parse text) before) operations after) :
      Answered setting before (.line text) (.ok none) operations after
  | left (text : Text) (after : σ) (filled : text.isBlank = false)
      (leaves : errandOf setting (Command.parse text) before = .leave)
      (done : setting.sink.flush before.sink = (none, after)) :
      Answered setting before (.line text) (.ok (some 0)) [⟨.afterExit, .flushed⟩] after
  | unleft (text reason : Text) (after : σ) (filled : text.isBlank = false)
      (leaves : errandOf setting (Command.parse text) before = .leave)
      (failed : setting.sink.flush before.sink = (some reason, after)) :
      Answered setting before (.line text) (.error (.io reason)) [⟨.afterExit, .flushFailed⟩] after
  | failed (text : Text) (error : ShellError) (failure report : List Operation) (taken told : Bytes)
      (result : Except ShellError (Option Nat)) (between after : σ) (filled : text.isBlank = false)
      (fails : Fails setting (Command.parse text) before
        (errandOf setting (Command.parse text) before) failure taken error between)
      (reported : Reported setting.sink between error report told result after) :
      Answered setting before (.line text) result (failure ++ report) after

theorem Served.fine {setting : Setting ω σ} {command : Command} {before : State ω σ} {errand : Errand}
    {operations : List Operation} {after : σ}
    (served : Served setting command before errand operations after) :
    ∀ operation ∈ operations, operation.use = .line ∧ ¬operation.fails := by
  cases served <;> simp [Operation.fails]

/-- What the sink is used for while an errand is carried out, and after it. -/
def errandUse : Errand → Use
  | .leave => .afterExit
  | .say _ _ | .start _ => .line

theorem useAfter_opening (setting : Setting ω σ) (command : Command) (before : State ω σ) (use : Use) :
    (opening setting command before).useAfter use = errandUse (errandOf setting command before) := by
  obtain ⟨word, arguments⟩ := command
  rw [opening, Trace.useAfter_ofNotes, openingNotes, List.foldl_append, List.foldl_cons]
  simp only [errandOf, Errand.of]
  cases setting.source.resolve (setting.host.look before.world) word with
  | builtin builtin =>
    cases builtin with
    | echo => rfl
    | type =>
      cases arguments with
      | nil => rfl
      | cons name others =>
        change (lookupNotes name (setting.source.resolve (setting.host.look before.world) name)).foldl
          (fun _ note => Use.after note) .line = .line
        cases setting.source.resolve (setting.host.look before.world) name <;> rfl
    | exit => cases arguments <;> rfl
  | executable path => rfl
  | notFound =>
    by_cases rooted : word.head? = some '/'
    · rw [if_pos rooted]
      rfl
    · rw [if_neg rooted]
      rfl

/-- The sink is used for nothing before the errand of a line. -/
theorem operations_obeyLine (setting : Setting ω σ) (line : Text) (before : State ω σ)
    (filled : (Command.parse line).isBlank = false) (use : Use) :
    let errand := errandOf setting (Command.parse line) before
    let ran := perform setting (Command.parse line) errand (State.dispatching before)
    let last := resume setting line ran.result ran.after
    (obeyLine setting line before).result = last.result ∧
      (obeyLine setting line before).after = last.after ∧
      (obeyLine setting line before).trace.operationsFrom use =
        ran.trace.operationsFrom (errandUse errand) ++
          last.trace.operationsFrom (ran.trace.useAfter (errandUse errand)) := by
  intro errand ran last
  have same : errandOf setting (Command.parse line) (State.dispatching before) = errand := rfl
  rw [obeyLine_of_command _ _ _ filled]
  refine ⟨rfl, rfl, ?_⟩
  simp only [Trace.operationsFrom_append, Trace.useAfter_append, useAfter_opening, same]
  rw [opening, Trace.operationsFrom_ofNotes]
  rfl

theorem conclude_error_reported (setting : Setting ω σ) (line : Text) (error : ShellError)
    (before : State ω σ) (use : Use) :
    let ran := conclude setting line (.error error) before
    ∃ report told, Reported setting.sink before.sink error report told ran.result ran.after.sink ∧
      ran.trace.operationsFrom use = report := by
  intro ran
  have concluded : Concluded setting line before (.error error) ran := conclude_cases _ _ _ _
  generalize ran = last at concluded ⊢
  cases concluded with
  | reported _ after taken => exact ⟨_, _, .whole after taken, rfl⟩
  | unreported _ refusal after refused => exact ⟨_, _, .cut refusal after refused, rfl⟩

theorem obeyLine_answered (setting : Setting ω σ) (line : Text) (before : State ω σ)
    (filled : (Command.parse line).isBlank = false) (use : Use) :
    let ran := obeyLine setting line before
    Answered setting before (.line line) ran.result (ran.trace.operationsFrom use)
      ran.after.sink := by
  obtain ⟨result, left, operations⟩ := operations_obeyLine setting line before filled use
  have performed := perform_cases setting (Command.parse line)
    (errandOf setting (Command.parse line) before) (State.dispatching before)
  rw [Command.isBlank_parse] at filled
  intro ran
  rw [result, left, operations]
  generalize perform setting (Command.parse line) (errandOf setting (Command.parse line) before)
    (State.dispatching before) = ran at performed ⊢
  have contained (failure : List Operation) (taken : Bytes) (error : ShellError) (later : State ω σ)
      (fails : Fails setting (Command.parse line) before
        (errandOf setting (Command.parse line) before) failure taken error later.sink) (next : Use) :
      Answered setting before (.line line) (resume setting line (.error error) later).result
        (failure ++ (resume setting line (.error error) later).trace.operationsFrom next)
        (resume setting line (.error error) later).after.sink := by
    obtain ⟨report, told, reported, same⟩ := conclude_error_reported setting line error later next
    rw [resume, same]
    exact .failed line error failure report taken told _ _ _ filled fails reported
  have served (operations : List Operation) (after : State ω σ)
      (serves : Served setting (Command.parse line) before
        (errandOf setting (Command.parse line) before) operations after.sink) :
      Answered setting before (.line line) (.ok none) (operations ++ []) after.sink := by
    rw [List.append_nil]
    exact .done line operations after.sink filled serves
  generalize asked : errandOf setting (Command.parse line) before = errand
    at performed contained served ⊢
  cases performed with
  | said speaker message after taken =>
    exact served _ { State.dispatching before with sink := after } (.said speaker message after taken)
  | unsaid speaker message refusal after refused =>
    exact contained _ _ _ { State.dispatching before with sink := after }
      (.unsaid speaker message refusal after refused) _
  | left =>
    have concluded := conclude_cases setting line (.ok (.exit 0)) (State.dispatching before)
    change Answered setting before (.line line)
      (conclude setting line (.ok (.exit 0)) (State.dispatching before)).result
      ((conclude setting line (.ok (.exit 0)) (State.dispatching before)).trace.operationsFrom
        .afterExit)
      (conclude setting line (.ok (.exit 0)) (State.dispatching before)).after.sink
    generalize conclude setting line (.ok (.exit 0)) (State.dispatching before) = last
      at concluded ⊢
    cases concluded with
    | left code after done => exact .left line after filled asked done
    | unflushed code reason after failed => exact .unleft line reason after filled asked failed
  | unflushed program reason after failed =>
    exact contained _ _ _ { State.dispatching before with sink := after }
      (.unflushed program reason after failed) _
  | refused program error written world flushed after done launched taken =>
    exact served _ ((State.dispatching before).launched world after)
      (.refused program error flushed after done (congrArg Launched.outcome launched) taken)
  | refusedUnsaid program error written world flushed refusal after done launched refused =>
    exact contained _ _ _ ((State.dispatching before).launched world after)
      (.refusedUnsaid program error flushed refusal after done (congrArg Launched.outcome launched)
        refused) _
  | started program process written world flushed done launched =>
    simp only [errandUse, Trace.operationsFrom_append, Trace.operationsFrom_ofNotes]
    exact served _ ((State.dispatching before).launched world flushed)
      (.started program process flushed done (congrArg Launched.outcome launched))

theorem obey_answered (setting : Setting ω σ) (reading : Reading) (before : State ω σ) (use : Use) :
    let ran := obey setting reading before
    Answered setting before reading ran.result (ran.trace.operationsFrom use) ran.after.sink := by
  cases reading with
  | line text =>
    cases blank : (Command.parse text).isBlank with
    | true =>
      rw [obey, obeyLine_of_blank _ _ _ blank]
      exact .blank text ((Command.isBlank_parse text).symm.trans blank)
    | false => exact obeyLine_answered setting text before blank use
  | interrupted => exact .interrupted
  | failed cause => exact .unread cause
  | endOfInput =>
    rw [obey_endOfInput]
    have finished := finish_cases setting before
    generalize finish setting before = last at finished ⊢
    cases finished with
    | ended written after taken done => exact .ended written after taken done
    | unwritten refusal after refused => exact .unwritten refusal after refused
    | unflushed written reason after taken failed =>
      exact .unflushed written reason after taken failed

/-- The flush before the prompt comes first. Only where it is done is a line read. -/
inductive Course (setting : Setting ω σ) (item : Item ω σ) (before : State ω σ) :
    Except ShellError (Option Nat) → List Operation → σ → Prop
  | unprompted (reason : Text) (after : σ)
      (failed : setting.sink.flush before.sink = (some reason, after)) :
      Course setting item before (.error (.io reason)) [⟨.beforePrompt, .flushFailed⟩] after
  | prompted (flushed : σ) (result : Except ShellError (Option Nat)) (operations : List Operation)
      (after : σ) (done : setting.sink.flush before.sink = (none, flushed))
      (answered : Answered setting (arranged item before flushed) item.reading result operations
        after) :
      Course setting item before result (⟨.beforePrompt, .flushed⟩ :: operations) after

theorem turn_course (setting : Setting ω σ) (item : Item ω σ) (before : State ω σ) :
    let ran := turn setting item before
    Course setting item before ran.result ran.trace.operations ran.after.sink := by
  rcases emptied : setting.sink.flush before.sink with ⟨_ | reason, flushed⟩
  · have answered := obey_answered setting item.reading (arranged item before flushed) .beforePrompt
    rw [turn_of_done _ _ _ _ emptied]
    exact .prompted flushed _ _ _ emptied answered
  · rw [turn_of_failed _ _ _ _ _ emptied]
    exact .unprompted reason flushed emptied

end Session

end CommandShell
