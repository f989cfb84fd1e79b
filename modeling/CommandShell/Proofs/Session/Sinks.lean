import CommandShell.Proofs.Session.Turns

/-!
The same session on another sink. As long as both sinks answer alike all happens alike.
-/

set_option autoImplicit false

namespace CommandShell

variable {ω σ τ ε α : Type}

def State.onto (state : State ω σ) (sink : τ) : State ω τ :=
  ⟨state.phase, state.world, sink, state.attempts⟩

def Setting.onto (setting : Setting ω σ) (sink : Sink τ) : Setting ω τ :=
  ⟨setting.source, setting.host, sink, setting.prompt⟩

/-- The same run, which has left another sink in this state. -/
def Ran.onto (ran : Ran ω σ ε α) (sink : τ) : Ran ω τ ε α :=
  ⟨ran.result, ran.after.onto sink, ran.trace⟩

/-- States of two sinks that correspond as long as the sinks are only flushed. No flush fails. -/
def Sink.FlushesWith (sink : Sink σ) (other : Sink τ) (related : σ → τ → Prop) : Prop :=
  ∀ state beside, related state beside → ∃ after left,
    sink.flush state = (none, after) ∧ other.flush beside = (none, left) ∧ related after left

namespace Session

variable {setting : Setting ω σ} {other : Sink τ} {related : σ → τ → Prop}

/-- A message that both sinks take. -/
theorem speak_onto_of_taken (speaker : Speaker) (message : Text) (before : State ω σ) (beside : τ)
    {after : σ} {left : τ}
    (taken : setting.sink.write before.sink (lineBytes message) = (none, after))
    (alike : other.write beside (lineBytes message) = (none, left)) :
    speak (setting.onto other) speaker message (before.onto beside) =
      (speak setting speaker message before).onto left := by
  rw [speak_of_taken setting _ _ _ _ taken,
    speak_of_taken (setting.onto other) speaker message (before.onto beside) left alike]
  rfl

/-- A program that can be started is started on both sinks, behind a flush. -/
theorem startExternal_onto_of_started (flushes : setting.sink.FlushesWith other related)
    (program : Path) (command : Command) (before : State ω σ) (beside : τ)
    (begin : related before.sink beside) (process : RunningProcess) (written : Written) (world : ω)
    (launched : launchOf setting program command before = ⟨.ok process, written, world⟩) :
    ∃ left, related (startExternal setting program command before).after.sink left ∧
      startExternal (setting.onto other) program command (before.onto beside) =
        (startExternal setting program command before).onto left := by
  obtain ⟨flushed, left, done, also, still⟩ := flushes _ _ begin
  refine ⟨left, ?_, ?_⟩
  · rw [startExternal_of_started _ _ _ _ _ _ _ _ done launched]
    exact still
  · rw [startExternal_of_started setting _ _ _ _ _ _ _ done launched,
      startExternal_of_started (setting.onto other) program command (before.onto beside) process
        written world left also launched]
    rfl

/-- A line that was carried out is concluded alike: `exit` flushes, and nothing else needs the sink. -/
theorem conclude_onto (flushes : setting.sink.FlushesWith other related) (line : Text)
    (outcome : Outcome) (before : State ω σ) (beside : τ) (begin : related before.sink beside) :
    ∃ left, related (conclude setting line (.ok outcome) before).after.sink left ∧
      conclude (setting.onto other) line (.ok outcome) (before.onto beside) =
        (conclude setting line (.ok outcome) before).onto left := by
  cases outcome with
  | goOn => exact ⟨beside, begin, rfl⟩
  | exit code =>
    obtain ⟨flushed, left, done, also, still⟩ := flushes _ _ begin
    rw [conclude_exit_of_done setting _ _ _ _ done,
      conclude_exit_of_done (setting.onto other) line code (before.onto beside) left also]
    exact ⟨left, still, rfl⟩

theorem resume_onto (flushes : setting.sink.FlushesWith other related) (line : Text) (begun : Begun)
    (before : State ω σ) (beside : τ) (begin : related before.sink beside) :
    ∃ left, related (resume setting line (.ok begun) before).after.sink left ∧
      resume (setting.onto other) line (.ok begun) (before.onto beside) =
        (resume setting line (.ok begun) before).onto left := by
  obtain ⟨left, still, same⟩ := conclude_onto flushes line begun.outcome before beside begin
  refine ⟨left, ?_, ?_⟩
  · rw [resume_ok]
    exact still
  · rw [resume_ok, resume_ok, same]
    rfl

/-- The command of a line, and what it asks for, do not depend on the sink. -/
theorem obeyLine_onto_of_command (setting : Setting ω σ) (other : Sink τ) (line : Text)
    (before : State ω σ) (beside : τ) (filled : (Command.parse line).isBlank = false)
    (ran : Ran ω τ ShellError Begun)
    (performed : perform (setting.onto other) (Command.parse line)
      (errandOf setting (Command.parse line) (State.dispatching before))
      ((State.dispatching before).onto beside) = ran) :
    obeyLine (setting.onto other) line (before.onto beside) =
      let last := resume (setting.onto other) line ran.result ran.after
      ⟨last.result, last.after,
        entering before.phase ++ opening setting (Command.parse line) (State.dispatching before) ++
          ran.trace ++ last.trace⟩ := by
  subst performed
  exact obeyLine_of_command (setting.onto other) line (before.onto beside) filled

end Session

end CommandShell
