import CommandShell.Session.Host
import CommandShell.Session.Sink
import CommandShell.Session.Trace

/-!
Acts of a session: each starts in a state, and yields a result or an error, the state after it, and
the trace of what happened.
-/

set_option autoImplicit false

namespace CommandShell

/-- The state of a session on a host with worlds in `ω`, whose sink has states in `σ`. -/
structure State (ω σ : Type) where
  phase : Phase
  world : ω
  sink : σ
  /-- How many programs there were attempts to start. -/
  attempts : Nat

/-- What stays the same through a session. -/
structure Setting (ω σ : Type) where
  source : PathSource
  host : Host ω
  sink : Sink σ
  prompt : Text

/-- An act that has been carried out. -/
structure Ran (ω σ ε α : Type) where
  result : Except ε α
  after : State ω σ
  trace : Trace

/-- An act that yields `α` or fails with `ε`. -/
def Act (ω σ ε α : Type) := State ω σ → Ran ω σ ε α

namespace Act

variable {ω σ ε δ α β : Type}

def pure (value : α) : Act ω σ ε α := fun before => ⟨.ok value, before, []⟩

/-- One act after another; an error keeps what happened and leaves out the rest. -/
def bind (first : Act ω σ ε α) (next : α → Act ω σ ε β) : Act ω σ ε β := fun before =>
  let ran := first before
  match ran.result with
  | .error error => ⟨.error error, ran.after, ran.trace⟩
  | .ok value =>
    let later := next value ran.after
    ⟨later.result, later.after, ran.trace ++ later.trace⟩

instance : Monad (Act ω σ ε) where
  pure := Act.pure
  bind := Act.bind

theorem bind_of_ok (first : Act ω σ ε α) (next : α → Act ω σ ε β) (before : State ω σ) (value : α)
    (success : (first before).result = .ok value) :
    (first >>= next) before =
      ⟨(next value (first before).after).result, (next value (first before).after).after,
        (first before).trace ++ (next value (first before).after).trace⟩ := by
  simp only [Bind.bind, bind, success]

theorem bind_of_error (first : Act ω σ ε α) (next : α → Act ω σ ε β) (before : State ω σ) (error : ε)
    (failed : (first before).result = .error error) :
    (first >>= next) before =
      ⟨.error error, (first before).after, (first before).trace⟩ := by
  simp only [Bind.bind, bind, failed]

def fail (error : ε) : Act ω σ ε α := fun before => ⟨.error error, before, []⟩

/-- The same act, with its error told otherwise. -/
def mapError (tell : ε → δ) (act : Act ω σ ε α) : Act ω σ δ α := fun before =>
  let ran := act before
  ⟨ran.result.mapError tell, ran.after, ran.trace⟩

/-- The same act, with its error as a result. -/
def attempt (act : Act ω σ ε α) : Act ω σ δ (Except ε α) := fun before =>
  let ran := act before
  ⟨.ok ran.result, ran.after, ran.trace⟩

/-- An event in the present phase. -/
def happen (event : Event) : Act ω σ ε Unit := fun before => ⟨.ok (), before, [⟨before.phase, event⟩]⟩

def note (note : Note) : Act ω σ ε Unit := happen (.noted note)

/-- What lookups see. -/
def look (host : Host ω) : Act ω σ ε Surroundings :=
  fun before => ⟨.ok (host.look before.world), before, []⟩

/-- Moves on to a phase. -/
def enter (next : Phase) : Act ω σ ε Unit := fun before =>
  ⟨.ok (), { before with phase := next }, [⟨next, .noted (.moved before.phase next)⟩]⟩

/-- Writes a message. A failed write fails with its reason. -/
def write (sink : Sink σ) (message : Text) : Act ω σ Text Unit := fun before =>
  let bytes := Utf8.encode message
  let (refusal, after) := sink.write before.sink bytes
  match refusal with
  | none => ⟨.ok (), { before with sink := after }, [⟨before.phase, .wrote bytes⟩]⟩
  | some refusal =>
    ⟨.error refusal.reason, { before with sink := after },
      [⟨before.phase, .wrote (bytes.take refusal.taken)⟩, ⟨before.phase, .writeFailed⟩]⟩

/-- Writes a message and a line feed. -/
def writeLine (sink : Sink σ) (message : Text) : Act ω σ Text Unit := write sink (message ++ ['\n'])

def flush (sink : Sink σ) : Act ω σ Text Unit := fun before =>
  let (reason, after) := sink.flush before.sink
  match reason with
  | none => ⟨.ok (), { before with sink := after }, [⟨before.phase, .flushed⟩]⟩
  | some reason =>
    ⟨.error reason, { before with sink := after }, [⟨before.phase, .flushFailed⟩]⟩

/-- Attempts to start a program. -/
def launch (host : Host ω) (request : LaunchRequest) : Act ω σ LaunchError RunningProcess :=
  fun before =>
    let launched := host.launch before.attempts before.world request
    ⟨launched.outcome,
      { before with world := launched.world, attempts := before.attempts + 1 },
      [⟨before.phase, .launch request⟩, ⟨before.phase, .performed launched.written⟩]⟩

/-- Replaces the world, where it has changed, and adjusts the sink. -/
def arrange (changed : Option ω) (adjust : σ → σ) : Act ω σ ε Unit := fun before =>
  ⟨.ok (), { before with world := changed.getD before.world, sink := adjust before.sink }, []⟩

end Act

end CommandShell
