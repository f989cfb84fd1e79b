import CommandShell.Proofs.Lookup
import CommandShell.Proofs.Session.Flushing
import CommandShell.Proofs.Session.Sinks
import CommandShell.Proofs.Words

/-!
Who is blamed where a sink fails a line: the builtin that was writing, or the shell. The sink is watched,
so that it can be said what it was asked first.
-/

set_option autoImplicit false

namespace CommandShell

variable {ω σ : Type}

namespace Sink

/-- What a sink is asked to do: to take a whole message, or to flush. -/
inductive Call
  | write (message : Bytes)
  | flush
  deriving DecidableEq

/-- What a sink was asked, and why it failed, if it did. -/
structure Reply where
  call : Call
  failure : Option Text
  deriving DecidableEq

/-- The same sink, which remembers its replies. -/
def watched (sink : Sink σ) : Sink (σ × List Reply) where
  write state message :=
    ((sink.write state.1 message).1, (sink.write state.1 message).2,
      state.2 ++ [⟨.write message, (sink.write state.1 message).1.map Refusal.reason⟩])
  flush state :=
    ((sink.flush state.1).1, (sink.flush state.1).2,
      state.2 ++ [⟨.flush, (sink.flush state.1).1⟩])

theorem watched_write {sink : Sink σ} {state after : σ} {message : Bytes} {refusal : Option Refusal}
    (answered : sink.write state message = (refusal, after)) (replies : List Reply) :
    sink.watched.write (state, replies) message =
      (refusal, after, replies ++ [⟨.write message, refusal.map Refusal.reason⟩]) := by
  simp only [watched, answered]

theorem watched_flush {sink : Sink σ} {state after : σ} {reason : Option Text}
    (answered : sink.flush state = (reason, after)) (replies : List Reply) :
    sink.watched.flush (state, replies) = (reason, after, replies ++ [⟨.flush, reason⟩]) := by
  simp only [watched, answered]

end Sink

open Sink (Call Reply)

/-- The program that is to be started for a command: an executable file of the search path, or the file
that a name is which starts at the root. -/
inductive Command.Starts (source : PathSource) (around : Surroundings) (command : Command) :
    Path → Prop
  | found (program : Path) (resolved : source.resolve around command.word = .executable program) :
      Starts source around command program
  | rooted (unresolved : source.resolve around command.word = .notFound)
      (rooted : command.word.head? = some '/') :
      Starts source around command (Utf8.encode command.word)

/-- The sink is asked to take what a builtin itself has to say: all that `echo` prints, or the answer of
`type` for its first argument. -/
inductive Sink.Call.OfBuiltin (source : PathSource) (around : Surroundings) (command : Command) :
    Call → Prop
  | echo (resolved : source.resolve around command.word = .builtin .echo) :
      OfBuiltin source around command (.write (lineBytes ([' '].intercalate command.arguments)))
  | type (name : Text) (others : List Text)
      (resolved : source.resolve around command.word = .builtin .type)
      (given : command.arguments = name :: others) :
      OfBuiltin source around command (.write (lineBytes (answer source around name)))

/-- The sink is asked for something by the shell: to take the line on the missing argument of `type` or
on a name that is not found and not started, or to flush before a launch. -/
inductive Sink.Call.OfShell (source : PathSource) (around : Surroundings) (command : Command) :
    Call → Prop
  | missingArgument (resolved : source.resolve around command.word = .builtin .type)
      (given : command.arguments = []) :
      OfShell source around command (.write (lineBytes "type: missing argument".toList))
  | notFound (resolved : source.resolve around command.word = .notFound)
      (unrooted : command.word.head? ≠ some '/') :
      OfShell source around command (.write (lineBytes (notFoundMessage command.word)))
  | beforeLaunch (program : Path) (starts : command.Starts source around program) :
      OfShell source around command .flush

/-- Where each errand comes from. -/
theorem Errand.accounted (source : PathSource) (around : Surroundings) (command : Command) :
    match Errand.of source around command with
    | .say .builtin message => (Call.write (lineBytes message)).OfBuiltin source around command
    | .say .shell message => (Call.write (lineBytes message)).OfShell source around command
    | .leave => source.resolve around command.word = .builtin .exit
    | .start program => command.Starts source around program := by
  unfold Errand.of
  cases resolved : source.resolve around command.word with
  | builtin builtin =>
    cases builtin with
    | echo => exact .echo resolved
    | type =>
      cases given : command.arguments with
      | nil => exact .missingArgument resolved given
      | cons name others => exact .type name others resolved given
    | exit => rfl
  | executable path => exact .found path resolved
  | notFound =>
    by_cases rooted : command.word.head? = some '/'
    · simp only [rooted, ↓reduceIte]
      exact .rooted resolved rooted
    · simp only [rooted, ↓reduceIte]
      exact .notFound resolved rooted

theorem Errand.starts_iff (source : PathSource) (around : Surroundings) (command : Command)
    (program : Path) :
    command.Starts source around program ↔ Errand.of source around command = .start program := by
  constructor
  · intro starts
    cases starts with
    | found program resolved => rw [Errand.of, resolved]
    | rooted unresolved rooted =>
      rw [Errand.of, unresolved]
      exact if_pos rooted
  · intro errand
    have accounted := Errand.accounted source around command
    rw [errand] at accounted
    exact accounted

theorem Errand.ofBuiltin_iff (source : PathSource) (around : Surroundings) (command : Command)
    (call : Call) :
    call.OfBuiltin source around command ↔
      ∃ message, Errand.of source around command = .say .builtin message ∧
        call = .write (lineBytes message) := by
  constructor
  · intro blamed
    cases blamed with
    | echo resolved => exact ⟨_, by rw [Errand.of, resolved], rfl⟩
    | type name others resolved given => exact ⟨_, by rw [Errand.of, resolved, given], rfl⟩
  · rintro ⟨message, errand, rfl⟩
    have accounted := Errand.accounted source around command
    rw [errand] at accounted
    exact accounted

theorem Errand.ofShell_iff (source : PathSource) (around : Surroundings) (command : Command)
    (call : Call) :
    call.OfShell source around command ↔
      (∃ message, Errand.of source around command = .say .shell message ∧
          call = .write (lineBytes message)) ∨
        ∃ program, Errand.of source around command = .start program ∧ call = .flush := by
  constructor
  · intro blamed
    cases blamed with
    | missingArgument resolved given =>
      exact .inl ⟨_, by rw [Errand.of, resolved, given], rfl⟩
    | notFound resolved unrooted =>
      refine .inl ⟨notFoundMessage command.word, ?_, rfl⟩
      rw [Errand.of, resolved]
      exact if_neg unrooted
    | beforeLaunch program starts =>
      exact .inr ⟨program, (Errand.starts_iff _ _ _ _).mp starts, rfl⟩
  · rintro (⟨message, errand, rfl⟩ | ⟨program, errand, rfl⟩)
    · have accounted := Errand.accounted source around command
      rw [errand] at accounted
      exact accounted
    · exact .beforeLaunch program ((Errand.starts_iff _ _ _ _).mpr errand)

namespace Session

/-- What an errand comes to, told by what the sink was asked for it and how it replied: the result and the
launches. What comes of an attempt to start a program is given. -/
inductive Asked (command : Command) (outcome : Path → Except LaunchError RunningProcess) :
    Errand → List Reply → Except ShellError Begun → List LaunchRequest → Prop
  | said (speaker : Speaker) (message : Text) :
      Asked command outcome (.say speaker message) [⟨.write (lineBytes message), none⟩]
        (.ok (.done .goOn)) []
  | unsaid (speaker : Speaker) (message reason : Text) :
      Asked command outcome (.say speaker message)
        [⟨.write (lineBytes message), some reason⟩] (.error (speaker.error reason)) []
  | left : Asked command outcome .leave [] (.ok (.done (.exit 0))) []
  | unflushed (program : Path) (reason : Text) :
      Asked command outcome (.start program) [⟨.flush, some reason⟩] (.error (.io reason)) []
  | refused (program : Path) (error : LaunchError)
      (launched : outcome program = .error error) :
      Asked command outcome (.start program)
        [⟨.flush, none⟩, ⟨.write (lineBytes (notFoundMessage command.word)), none⟩]
        (.ok (.done .goOn)) [⟨program, command.word, command.arguments⟩]
  | refusedUnsaid (program : Path) (error : LaunchError) (reason : Text)
      (launched : outcome program = .error error) :
      Asked command outcome (.start program)
        [⟨.flush, none⟩, ⟨.write (lineBytes (notFoundMessage command.word)), some reason⟩]
        (.error (.io reason)) [⟨program, command.word, command.arguments⟩]
  | started (program : Path) (process : RunningProcess)
      (launched : outcome program = .ok process) :
      Asked command outcome (.start program) [⟨.flush, none⟩]
        (.ok (.waiting command.word process)) [⟨program, command.word, command.arguments⟩]

/-- A sink that is watched is no other sink for an errand, and what it is asked is known. -/
theorem perform_watched (setting : Setting ω σ) (command : Command) (errand : Errand)
    (before : State ω σ) (replies : List Reply) :
    let ran := perform setting command errand before
    ∃ asked, perform (setting.onto setting.sink.watched) command errand
          (before.onto (before.sink, replies)) =
        ran.onto (ran.after.sink, replies ++ asked) ∧
      Asked command (fun program => (launchOf setting program command before).outcome) errand asked
        ran.result ran.trace.launches := by
  intro ran
  have performed : Performed setting command before errand ran :=
    perform_cases setting command errand before
  generalize ran = done at performed
  cases performed with
  | said speaker message after taken =>
    refine ⟨_, ?_, .said speaker message⟩
    exact speak_of_taken (setting.onto setting.sink.watched) speaker message _ _
      (Sink.watched_write taken replies)
  | unsaid speaker message refusal after refused =>
    refine ⟨_, ?_, .unsaid speaker message refusal.reason⟩
    exact speak_of_refused (setting.onto setting.sink.watched) speaker message _ _ _
      (Sink.watched_write refused replies)
  | left => exact ⟨[], by rw [List.append_nil]; rfl, .left⟩
  | unflushed program reason after failed =>
    refine ⟨_, ?_, .unflushed program reason⟩
    exact startExternal_of_unflushed (setting.onto setting.sink.watched) program command _ _ _
      (Sink.watched_flush failed replies)
  | refused program error written world flushed after done launched taken =>
    have attempt := startExternal_of_refused (setting.onto setting.sink.watched) program command
      (before.onto (before.sink, replies)) error written world _ (Sink.watched_flush done replies)
      launched
    have told := speak_of_taken (setting.onto setting.sink.watched) .shell
      (notFoundMessage command.word)
      ((before.onto (before.sink, replies)).launched world (flushed, replies ++ [⟨.flush, none⟩])) _
      (Sink.watched_write taken _)
    refine ⟨[⟨.flush, none⟩, ⟨.write (lineBytes (notFoundMessage command.word)), none⟩], ?_, ?_⟩
    · refine attempt.trans ?_
      rw [told, List.append_assoc]
      rfl
    · exact .refused program error (congrArg Launched.outcome launched)
  | refusedUnsaid program error written world flushed refusal after done launched refused =>
    have attempt := startExternal_of_refused (setting.onto setting.sink.watched) program command
      (before.onto (before.sink, replies)) error written world _ (Sink.watched_flush done replies)
      launched
    have told := speak_of_refused (setting.onto setting.sink.watched) .shell
      (notFoundMessage command.word)
      ((before.onto (before.sink, replies)).launched world (flushed, replies ++ [⟨.flush, none⟩]))
      refusal _ (Sink.watched_write refused _)
    refine ⟨[⟨.flush, none⟩,
      ⟨.write (lineBytes (notFoundMessage command.word)), some refusal.reason⟩], ?_, ?_⟩
    · refine attempt.trans ?_
      rw [told, List.append_assoc]
      rfl
    · exact .refusedUnsaid program error refusal.reason (congrArg Launched.outcome launched)
  | started program process written world flushed done launched =>
    refine ⟨[⟨.flush, none⟩], ?_, ?_⟩
    · exact startExternal_of_started (setting.onto setting.sink.watched) program command _ process
        written world _ (Sink.watched_flush done replies) launched
    · rw [Trace.launches_append, Trace.launches_ofNotes]
      exact .started program process (congrArg Launched.outcome launched)

/-- What happens when a line is over that may have started a program. -/
def endingOf (phase : Phase) : Except ShellError Begun → Trace
  | .ok begun => begun.ending phase
  | .error _ => []

theorem executeLine_of_blank (setting : Setting ω σ) (line : Text) (before : State ω σ)
    (blank : (Command.parse line).isBlank = true) :
    executeLine setting line before =
      ⟨.ok .goOn, { before with phase := .parsing },
        [⟨.parsing, .noted (.moved before.phase .parsing)⟩]⟩ := by
  rw [executeLine, Act.bind_apply, beginLine_of_blank _ _ _ blank]
  rfl

theorem executeLine_of_command (setting : Setting ω σ) (line : Text) (before : State ω σ)
    (filled : (Command.parse line).isBlank = false) (ran : Ran ω σ ShellError Begun)
    (performed : perform setting (Command.parse line) (errandOf setting (Command.parse line) before)
      (State.dispatching before) = ran) :
    executeLine setting line before =
      ⟨ran.result.map Begun.outcome, ran.after,
        entering before.phase ++
          opening setting (Command.parse line) (State.dispatching before) ++ ran.trace ++
            endingOf ran.after.phase ran.result⟩ := by
  have same : errandOf setting (Command.parse line) (State.dispatching before) =
      errandOf setting (Command.parse line) before := rfl
  rw [executeLine, Act.bind_apply, beginLine_of_command _ _ _ filled, dispatch_eq_perform, same,
    performed]
  rcases ran with ⟨error | begun, after, trace⟩
  · simp only [Except.map, endingOf, List.append_assoc, List.append_nil]
  · simp only [complete_apply, Except.map, endingOf, List.append_assoc]

theorem endingOf_launches (phase : Phase) (result : Except ShellError Begun) :
    (endingOf phase result).launches = [] := by
  cases result with
  | error error => rfl
  | ok begun => cases begun <;> rfl

/-- What a line comes to, told by what the sink was asked for it and how it replied. -/
inductive LineAsked (setting : Setting ω σ) (line : Text) (before : State ω σ) :
    List Reply → Except ShellError Outcome → List LaunchRequest → Prop
  | blank (blank : (Command.parse line).isBlank = true) :
      LineAsked setting line before [] (.ok .goOn) []
  | command (filled : (Command.parse line).isBlank = false) (replies : List Reply)
      (begun : Except ShellError Begun) (launches : List LaunchRequest)
      (asked : Asked (Command.parse line)
        (fun program => (launchOf setting program (Command.parse line) before).outcome)
        (errandOf setting (Command.parse line) before) replies begun launches) :
      LineAsked setting line before replies (begun.map Begun.outcome) launches

/-- A line goes on a sink that is watched as on the sink itself. -/
theorem executeLine_watched (setting : Setting ω σ) (line : Text) (before : State ω σ) :
    let ran := executeLine setting line before
    ∃ replies, executeLine (setting.onto setting.sink.watched) line (before.onto (before.sink, [])) =
        ran.onto (ran.after.sink, replies) ∧
      LineAsked setting line before replies ran.result ran.trace.launches := by
  intro ran
  cases blank : (Command.parse line).isBlank with
  | true =>
    have known : ran = _ := executeLine_of_blank setting line before blank
    have watched := executeLine_of_blank (setting.onto setting.sink.watched) line
      (before.onto (before.sink, [])) blank
    refine ⟨[], ?_, ?_⟩
    · rw [watched, known]
      rfl
    · rw [known]
      exact .blank blank
  | false =>
    obtain ⟨asked, same, comes⟩ := perform_watched setting (Command.parse line)
      (errandOf setting (Command.parse line) before) (State.dispatching before) []
    have known : ran = _ := executeLine_of_command setting line before blank _ rfl
    have watched := executeLine_of_command (setting.onto setting.sink.watched) line
      (before.onto (before.sink, [])) blank _ same
    refine ⟨asked, ?_, ?_⟩
    · rw [watched, known]
      rfl
    · rw [known]
      simp only [Trace.launches_append, opening, Trace.launches_ofNotes, endingOf_launches,
        List.append_nil]
      exact .command blank _ _ _ comes

section Asked

variable {source : PathSource} {around : Surroundings} {command : Command}
  {outcome : Path → Except LaunchError RunningProcess} {replies : List Reply}
  {begun : Except ShellError Begun} {launches : List LaunchRequest}

theorem Asked.blames
    (asked : Asked command outcome (.of source around command) replies begun launches) {call : Call}
    {reason : Text} (failed : replies.head? = some ⟨call, some reason⟩) :
    (begun.map Begun.outcome = .error (.command (.io reason)) ↔
        call.OfBuiltin source around command) ∧
      (begun.map Begun.outcome = .error (.io reason) ↔ call.OfShell source around command) ∧
      (call.OfBuiltin source around command ∨ call.OfShell source around command) ∧
      launches = [] := by
  rw [Errand.ofBuiltin_iff, Errand.ofShell_iff]
  generalize Errand.of source around command = errand at asked ⊢
  cases asked with
  | unsaid speaker message given =>
    simp only [List.head?_cons, Option.some.injEq, Reply.mk.injEq] at failed
    obtain ⟨rfl, rfl⟩ := failed
    cases speaker <;> simp [Except.map, Speaker.error]
  | unflushed program given =>
    simp only [List.head?_cons, Option.some.injEq, Reply.mk.injEq] at failed
    obtain ⟨rfl, rfl⟩ := failed
    simp [Except.map]
  | left => cases failed
  | _ => simp at failed

theorem Asked.launched
    (asked : Asked command outcome (.of source around command) replies begun launches)
    (flushed : replies.head? = some ⟨.flush, none⟩) :
    ∃ program, command.Starts source around program ∧
      launches = [⟨program, command.word, command.arguments⟩] ∧
      ∀ error, begun.map Begun.outcome = .error error → ∃ refused reason,
        outcome program = .error refused ∧ error = .io reason ∧
          replies = [⟨.flush, none⟩,
            ⟨.write (lineBytes (notFoundMessage command.word)), some reason⟩] := by
  simp only [Errand.starts_iff]
  generalize Errand.of source around command = errand at asked
  cases asked with
  | refused program error launched => exact ⟨program, rfl, rfl, by simp [Except.map]⟩
  | refusedUnsaid program error reason launched =>
    refine ⟨program, rfl, rfl, ?_⟩
    intro failure same
    cases same
    exact ⟨error, reason, launched, rfl, rfl⟩
  | started program process launched => exact ⟨program, rfl, rfl, by simp [Except.map]⟩
  | left => cases flushed
  | _ => simp at flushed

/-- A line fails only where the sink does, for its reason and at once. -/
theorem Asked.failed {errand : Errand} (asked : Asked command outcome errand replies begun launches)
    {error : ShellError} (failed : begun.map Begun.outcome = .error error) :
    ∃ call reason, replies.getLast? = some ⟨call, some reason⟩ ∧
      (error = .io reason ∨ error = .command (.io reason)) := by
  cases asked with
  | unsaid speaker message reason =>
    cases failed
    refine ⟨_, reason, rfl, ?_⟩
    cases speaker with
    | builtin => exact .inr rfl
    | shell => exact .inl rfl
  | unflushed program reason =>
    cases failed
    exact ⟨_, reason, rfl, .inl rfl⟩
  | refusedUnsaid program error reason launched =>
    cases failed
    exact ⟨_, reason, rfl, .inl rfl⟩
  | _ => cases failed

theorem Asked.exits
    (asked : Asked command outcome (.of source around command) replies begun launches)
    (leaves : source.resolve around command.word = .builtin .exit) :
    replies = [] ∧ begun.map Begun.outcome = .ok (.exit 0) := by
  have errand : Errand.of source around command = .leave := by rw [Errand.of, leaves]
  rw [errand] at asked
  cases asked
  exact ⟨rfl, rfl⟩

end Asked

/-- Who is blamed where the first thing a line asks of its sink fails. The error is the builtin's if it was
the own output of `echo`, or the answer of `type`, and the shell's if it was the line on a missing
argument, the line on a name that is not found and not started, or the flush before a launch, which there is
none of then. If that flush succeeds, there is a launch, and the line fails only if the program is
refused and the line that tells of it is too. Blank lines and `exit` ask nothing of the sink and
succeed. Nothing but the sink fails a line. -/
theorem executeLine_blames (setting : Setting ω σ) (line : Text) (before : State ω σ) :
    let command := Command.parse line
    let around := setting.host.look before.world
    let ran := executeLine setting line before
    let watched := executeLine (setting.onto setting.sink.watched) line (before.onto (before.sink, []))
    let replies := watched.after.sink.2
    watched = ran.onto (ran.after.sink, replies) ∧
      (∀ call reason, replies.head? = some ⟨call, some reason⟩ →
        (ran.result = .error (.command (.io reason)) ↔
            call.OfBuiltin setting.source around command) ∧
          (ran.result = .error (.io reason) ↔ call.OfShell setting.source around command) ∧
          (call.OfBuiltin setting.source around command ∨
            call.OfShell setting.source around command) ∧
          ran.trace.launches = []) ∧
      (∀ reason, (ShellError.command (.io reason)).message =
            "failed to write output: ".toList ++ reason ∧
          (ShellError.io reason).message = "IO error: ".toList ++ reason) ∧
      (replies.head? = some ⟨.flush, none⟩ →
        ∃ program, command.Starts setting.source around program ∧
          ran.trace.launches = [⟨program, command.word, command.arguments⟩] ∧
          ∀ error, ran.result = .error error → ∃ refused reason,
            (launchOf setting program command before).outcome = .error refused ∧
              error = .io reason ∧
              replies = [⟨.flush, none⟩,
                ⟨.write (lineBytes (notFoundMessage command.word)), some reason⟩]) ∧
      (line.isBlank = true → replies = [] ∧ ran.result = .ok .goOn) ∧
      (setting.source.resolve around command.word = .builtin .exit →
        replies = [] ∧ ran.result = .ok (.exit 0)) ∧
      ∀ error, ran.result = .error error → ∃ call reason,
        replies.getLast? = some ⟨call, some reason⟩ ∧
          (error = .io reason ∨ error = .command (.io reason)) := by
  intro command around ran watched replies
  have messages : ∀ reason, (ShellError.command (.io reason)).message =
        "failed to write output: ".toList ++ reason ∧
      (ShellError.io reason).message = "IO error: ".toList ++ reason :=
    fun _ => ⟨rfl, rfl⟩
  obtain ⟨asked, same, comes⟩ := executeLine_watched setting line before
  have listed : replies = asked := congrArg (·.after.sink.2) same
  have white : line.isBlank = command.isBlank := (Command.isBlank_parse line).symm
  rw [listed]
  change LineAsked setting line before asked ran.result ran.trace.launches at comes
  refine ⟨same, ?_⟩
  generalize ran.result = result at comes ⊢
  generalize ran.trace.launches = launches at comes ⊢
  cases comes with
  | blank blank =>
    have external : setting.source.resolve around command.word ≠ .builtin .exit := by
      intro leaves
      have named := (PathSource.resolve_eq_builtin_iff _ _ _ _).mp leaves
      rw [Command.isBlank, ← named] at blank
      cases blank
    refine ⟨?_, messages, ?_, fun _ => ⟨rfl, rfl⟩, fun leaves => absurd leaves external, ?_⟩
    · intro call reason failed
      cases failed
    · intro flushed
      cases flushed
    · intro error failed
      cases failed
  | command filled _ begun _ asked =>
    refine ⟨fun _ _ => asked.blames, messages, asked.launched, ?_, asked.exits, fun _ => asked.failed⟩
    intro blank
    rw [white, filled] at blank
    cases blank

/-- What `echo` prints is refused: `echo` is to blame. A program is refused, and so is the line that tells of
it: the shell is to blame, and the launch has been attempted. -/
theorem executeLine_blames_flawed :
    let before : State Surroundings Flaws :=
      start ⟨none, Files.none⟩ { Flaws.none with failingWrites := 1 }
    let told := executeLine flawed "echo a".toList before
    let ran := executeLine flawed "/x".toList before
    let replies := (executeLine (flawed.onto flawed.sink.watched) "/x".toList
      (before.onto (before.sink, []))).after.sink.2
    told.result = .error (.command (.io Flaws.reason)) ∧ told.trace.launches = [] ∧
      replies.head? = some ⟨.flush, none⟩ ∧ (∃ error, ran.result = .error error) ∧
      ran.trace.launches = [⟨Utf8.encode "/x".toList, "/x".toList, []⟩] := by
  intro before told ran replies
  obtain ⟨-, blames, -⟩ := executeLine_blames flawed "echo a".toList before
  obtain ⟨-, -, -, launched, -⟩ := executeLine_blames flawed "/x".toList before
  obtain ⟨builtin, -, -, silent⟩ := blames (.write (lineBytes "a".toList)) Flaws.reason (by decide +kernel)
  have flushed : replies.head? = some ⟨.flush, none⟩ := by decide +kernel
  obtain ⟨program, starts, launches, -⟩ := launched flushed
  refine ⟨builtin.mpr ?_, silent, flushed, ?_, ?_⟩
  · exact .echo (by decide)
  · exact ⟨.io Flaws.reason, by rfl⟩
  · cases starts with
    | found _ resolved =>
      have missing : flawed.source.resolve (flawed.host.look before.world) "/x".toList = .notFound := by
        decide
      cases missing.symm.trans resolved
    | rooted _ _ => exact launches

end Session

end CommandShell
