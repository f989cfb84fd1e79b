import CommandShell.Proofs.Session.Paths
import CommandShell.Proofs.Session.Turns

/-!
A line is cut in two where the loop waits for the program it has started.
-/

set_option autoImplicit false

namespace CommandShell

@[simp] theorem Trace.launches_ofNotes (phase : Phase) (notes : List Note) :
    launches (ofNotes phase notes) = [] := by
  induction notes with
  | nil => rfl
  | cons note rest ih => exact ih

/-- Nothing that an onlooker would take for the shell's: no prompt, no launch and no output. -/
def Event.Quiet (event : Event) : Prop :=
  event.isPrompt = false ∧ event.launched? = none ∧ event.written = []

/-- A request calls the program by the command word of a line and hands it the arguments. -/
def LaunchRequest.Serves (request : LaunchRequest) (line : Text) : Prop :=
  Command.parse line = ⟨request.name, request.arguments⟩

namespace Session

variable {ω σ : Type}

/-- How far a reading has come: all of it is done, or a program started for its line is running. -/
inductive Paused
  | whole (code : Option Nat)
  | child (line name : Text) (process : RunningProcess)

/-- A part of a reading after which there is nothing to wait for. -/
def atOnce (act : Act ω σ ShellError (Option Nat)) : Act ω σ ShellError Paused := do
  return .whole (← act)

/-- Concludes a line that has started no program. -/
def suspend (setting : Setting ω σ) (line : Text) :
    Except ShellError Begun → Act ω σ ShellError Paused
  | .ok (.waiting name process) => return .child line name process
  | begun => atOnce (resume setting line begun)

/-- Does what a reading asks for, as far as that goes without waiting. -/
def obeyUntil (setting : Setting ω σ) : Reading → Act ω σ ShellError Paused
  | .line text => do suspend setting text (← (beginLine setting text).attempt)
  | reading => atOnce (obey setting reading)

/-- Does the rest, once the program that may have been started is over. -/
def proceed (setting : Setting ω σ) : Paused → Act ω σ ShellError (Option Nat)
  | .whole code => return code
  | .child line name process => resume setting line (.ok (.waiting name process))

theorem suspend_proceed (setting : Setting ω σ) (line : Text) (begun : Except ShellError Begun) :
    suspend setting line begun >>= proceed setting = resume setting line begun := by
  rcases begun with error | outcome | ⟨name, process⟩
  · simp only [suspend, atOnce, proceed, bind_assoc, pure_bind, bind_pure]
  · simp only [suspend, atOnce, proceed, bind_assoc, pure_bind, bind_pure]
  · simp only [suspend, proceed, pure_bind]

/-- The two halves make a whole. -/
theorem obeyUntil_proceed (setting : Setting ω σ) (reading : Reading) :
    obeyUntil setting reading >>= proceed setting = obey setting reading := by
  cases reading with
  | line text =>
    simp only [obeyUntil, bind_assoc, suspend_proceed, obey]
    exact (obeyLine_eq setting text).symm
  | _ => simp only [obeyUntil, atOnce, proceed, bind_assoc, pure_bind, bind_pure]

/-- The launches that are made for a reading: none, or one that serves the line. -/
def LaunchesFor (reading : Reading) (trace : Trace) : Prop :=
  trace.launches = [] ∨ ∃ line request, reading = .line line ∧ trace.launches = [request] ∧
    request.Serves line

/-- What is to be known of a reading before the loop goes on, or waits, when so many launches have been
attempted before. -/
inductive Stopped (reading : Reading) (attempts : Nat) : Ran ω σ ShellError Paused → Prop
  | whole (result : Except ShellError (Option Nat)) (after : State ω σ) (trace : Trace)
      (launched : LaunchesFor reading trace) (counted : attempts ≤ after.attempts)
      (closed : reading = .endOfInput → result ≠ .ok none) :
      Stopped reading attempts ⟨result.map .whole, after, trace⟩
  | child (line name : Text) (process : RunningProcess) (request : LaunchRequest) (phase : Phase)
      (after : State ω σ) (front back : Trace) (read : reading = .line line)
      (serves : request.Serves line) (first : front.launches = [])
      (quiet : ∀ moment ∈ back, moment.event.Quiet) (counted : attempts < after.attempts) :
      Stopped reading attempts
        ⟨.ok (.child line name process), after, front ++ ⟨phase, .launch request⟩ :: back⟩

theorem conclude_launches (setting : Setting ω σ) (line : Text)
    (outcome : Except ShellError Outcome) (before : State ω σ) :
    (conclude setting line outcome before).trace.launches = [] ∧
      (conclude setting line outcome before).after.attempts = before.attempts := by
  have concluded := conclude_cases setting line outcome before
  generalize conclude setting line outcome before = ran at concluded ⊢
  cases concluded <;> exact ⟨rfl, rfl⟩

theorem resume_launches (setting : Setting ω σ) (line : Text) (begun : Except ShellError Begun)
    (before : State ω σ) :
    (resume setting line begun before).trace.launches = [] ∧
      (resume setting line begun before).after.attempts = before.attempts := by
  cases begun with
  | error error => exact conclude_launches setting line (.error error) before
  | ok begun =>
    obtain ⟨none_launched, counted⟩ := conclude_launches setting line (.ok begun.outcome) before
    rw [resume_ok]
    refine ⟨?_, counted⟩
    rw [Trace.launches_append, none_launched]
    cases begun <;> rfl

theorem awaitLine_launches (setting : Setting ω σ) (before : State ω σ) :
    (awaitLine setting before).trace.launches = [] ∧
      (awaitLine setting before).after.attempts = before.attempts := by
  rcases emptied : setting.sink.flush before.sink with ⟨_ | reason, flushed⟩
  · rw [awaitLine_of_done _ _ _ emptied]
    exact ⟨rfl, rfl⟩
  · rw [awaitLine_of_failed _ _ _ _ emptied]
    exact ⟨rfl, rfl⟩

theorem finish_launches (setting : Setting ω σ) (before : State ω σ) :
    (finish setting before).trace.launches = [] ∧
      (finish setting before).after.attempts = before.attempts := by
  have finished := finish_cases setting before
  generalize finish setting before = ran at finished ⊢
  cases finished <;> exact ⟨rfl, rfl⟩

theorem obeyUntil_of_command (setting : Setting ω σ) (line : Text) (before : State ω σ)
    (filled : (Command.parse line).isBlank = false) :
    obeyUntil setting (.line line) before =
      let command := Command.parse line
      let ready := State.dispatching before
      let ran := perform setting command (errandOf setting command ready) ready
      let last := suspend setting line ran.result ran.after
      ⟨last.result, last.after,
        entering before.phase ++ opening setting command ready ++ ran.trace ++ last.trace⟩ := by
  rw [obeyUntil, Act.bind_apply, Act.attempt_apply, beginLine_of_command _ _ _ filled,
    dispatch_eq_perform]
  simp only [List.append_assoc]

theorem atOnce_apply (act : Act ω σ ShellError (Option Nat)) (before : State ω σ) :
    atOnce act before = ⟨(act before).result.map .whole, (act before).after, (act before).trace⟩ := by
  rw [atOnce, Act.bind_apply]
  rcases act before with ⟨_ | code, after, trace⟩
  · rfl
  · simp only [Act.pure_apply, List.append_nil, Except.map]

theorem performed_launches (setting : Setting ω σ) (command : Command) (before : State ω σ)
    (errand : Errand) (ran : Ran ω σ ShellError Begun)
    (performed : Performed setting command before errand ran) :
    (ran.trace.launches = [] ∨ ∃ program, errand = .start program ∧
        ran.trace.launches = [⟨program, command.word, command.arguments⟩]) ∧
      before.attempts ≤ ran.after.attempts := by
  cases performed with
  | said speaker message after taken => exact ⟨.inl rfl, Nat.le_refl _⟩
  | unsaid speaker message refusal after refused => exact ⟨.inl rfl, Nat.le_refl _⟩
  | left => exact ⟨.inl rfl, Nat.le_refl _⟩
  | unflushed program reason after failed => exact ⟨.inl rfl, Nat.le_refl _⟩
  | refused program error written world flushed after done launched taken =>
    exact ⟨.inr ⟨program, rfl, rfl⟩, Nat.le_succ _⟩
  | refusedUnsaid program error written world flushed refusal after done launched refused =>
    exact ⟨.inr ⟨program, rfl, rfl⟩, Nat.le_succ _⟩
  | started program process written world flushed done launched =>
    refine ⟨.inr ⟨program, rfl, ?_⟩, Nat.le_succ _⟩
    rw [Trace.launches_append, Trace.launches_ofNotes]
    rfl

theorem suspended_stopped (setting : Setting ω σ) (line : Text) (before : State ω σ) (errand : Errand)
    (ran : Ran ω σ ShellError Begun) (front : Trace) (silent : front.launches = [])
    (performed : Performed setting (Command.parse line) (State.dispatching before) errand ran) :
    let last := suspend setting line ran.result ran.after
    Stopped (.line line) before.attempts
      ⟨last.result, last.after, front ++ ran.trace ++ last.trace⟩ := by
  obtain ⟨launched, counted⟩ := performed_launches _ _ _ _ _ performed
  -- A line that has started no program is concluded at once.
  have concluded (same : suspend setting line ran.result = atOnce (resume setting line ran.result)) :
      Stopped (.line line) before.attempts
        ⟨(suspend setting line ran.result ran.after).result,
          (suspend setting line ran.result ran.after).after,
          front ++ ran.trace ++ (suspend setting line ran.result ran.after).trace⟩ := by
    obtain ⟨none_more, kept⟩ := resume_launches setting line ran.result ran.after
    rw [same, atOnce_apply]
    refine .whole _ _ _ ?_ (by rw [kept]; exact counted) (by simp)
    unfold LaunchesFor
    rw [Trace.launches_append, Trace.launches_append, silent, none_more, List.nil_append,
      List.append_nil]
    rcases launched with none_launched | ⟨program, -, one⟩
    · exact .inl none_launched
    · exact .inr ⟨line, _, rfl, one, rfl⟩
  cases performed with
  | started program process written world flushed done launched =>
    have split : front ++ (launching program (Command.parse line) written .dispatching ++
        Trace.ofNotes .dispatching (startNotes program process)) ++ [] =
        (front ++ [⟨.dispatching, .flushed⟩]) ++
          ⟨.dispatching, .launch ⟨program, (Command.parse line).word, (Command.parse line).arguments⟩⟩ ::
            ⟨.dispatching, .performed written⟩ ::
              Trace.ofNotes .dispatching (startNotes program process) := by
      simp [launching]
    intro last
    change Stopped (.line line) before.attempts ⟨.ok (.child line _ process), _, front ++
      (launching program (Command.parse line) written .dispatching ++
        Trace.ofNotes .dispatching (startNotes program process)) ++ []⟩
    rw [split]
    refine .child line _ process _ _ _ _ _ rfl rfl ?_ ?_ (Nat.lt_succ_self _)
    · rw [Trace.launches_append, silent]
      rfl
    · intro moment member
      rcases List.mem_cons.mp member with rfl | noted
      · exact ⟨rfl, rfl, rfl⟩
      · obtain ⟨note, -, rfl⟩ := List.mem_map.mp noted
        exact ⟨rfl, rfl, rfl⟩
  | _ => exact concluded rfl

theorem obeyUntil_stopped (setting : Setting ω σ) (reading : Reading) (before : State ω σ) :
    Stopped reading before.attempts (obeyUntil setting reading before) := by
  cases reading with
  | line line =>
    cases blank : (Command.parse line).isBlank with
    | true =>
      rw [obeyUntil, Act.bind_apply, Act.attempt_apply, beginLine_of_blank _ _ _ blank]
      exact .whole (.ok none) _ _ (.inl rfl) (Nat.le_refl _) (by simp)
    | false =>
      have silent : (entering before.phase ++
          opening setting (Command.parse line) (State.dispatching before)).launches = [] := by
        rw [Trace.launches_append, opening, Trace.launches_ofNotes]
        rfl
      rw [obeyUntil_of_command _ _ _ blank]
      exact suspended_stopped setting line before _ _ _ silent (perform_cases setting _ _ _)
  | interrupted => exact .whole (.ok none) before [] (.inl rfl) (Nat.le_refl _) (by simp)
  | failed cause =>
    exact .whole (.error (.input cause)) _ _ (.inl rfl) (Nat.le_refl _) (by simp)
  | endOfInput =>
    obtain ⟨none_launched, counted⟩ := finish_launches setting before
    have whole : obeyUntil setting .endOfInput = atOnce (obey setting .endOfInput) := rfl
    rw [whole, atOnce_apply, obey_endOfInput]
    refine .whole _ _ _ (.inl none_launched) (Nat.le_of_eq counted.symm) ?_
    intro _ goesOn
    cases ended : (finish setting before).result <;> simp [ended, Except.map] at goesOn

end Session

end CommandShell
