import CommandShell.Proofs.Session.Acts

/-!
What a session uses its sink for. The note made last tells it.
-/

set_option autoImplicit false

namespace CommandShell

inductive Use
  /-- The flush before a prompt. -/
  | beforePrompt
  /-- The newline at the end of the input, and the flush after it. -/
  | farewell
  /-- The flush after `exit`. -/
  | afterExit
  /-- The line that tells of an error. -/
  | report
  /-- Whatever else a line comes to: what a builtin or the shell has to say, and the flush before a
  launch. -/
  | line
  deriving DecidableEq

/-- What the sink is used for after a note. -/
def Use.after : Note → Use
  | .moved _ .idle => .beforePrompt
  | .endOfInput => .farewell
  | .dispatching _ (.builtin .exit) | .exitArgumentsIgnored _ => .afterExit
  | .dispatchFailed _ _ => .report
  | _ => .line

def Event.operates : Event → Bool
  | .wrote _ | .writeFailed | .flushed | .flushFailed => true
  | _ => false

/-- Something the sink does, or fails to do, and what for. -/
structure Operation where
  use : Use
  event : Event
  deriving DecidableEq

def Operation.fails (operation : Operation) : Prop :=
  operation.event = .writeFailed ∨ operation.event = .flushFailed

namespace Trace

/-- What the sink is used for after a trace. -/
def useAfter (use : Use) (trace : Trace) : Use := (notes trace).foldl (fun _ note => .after note) use

/-- What the sink does in a trace, when it is first used as given. -/
def operationsFrom (use : Use) : Trace → List Operation
  | [] => []
  | ⟨_, .noted note⟩ :: rest => operationsFrom (.after note) rest
  | ⟨_, event⟩ :: rest =>
    if event.operates then ⟨use, event⟩ :: operationsFrom use rest else operationsFrom use rest

/-- What the sink does in a session, or in a turn of it. Each begins with a note. -/
def operations (trace : Trace) : List Operation := operationsFrom .line trace

@[simp] theorem operationsFrom_nil (use : Use) : operationsFrom use [] = [] := rfl

@[simp] theorem operationsFrom_noted (use : Use) (phase : Phase) (note : Note) (rest : Trace) :
    operationsFrom use (⟨phase, .noted note⟩ :: rest) = operationsFrom (.after note) rest := rfl

theorem useAfter_cons (use : Use) (phase : Phase) (event : Event) (rest : Trace) :
    useAfter use (⟨phase, event⟩ :: rest) =
      useAfter (match event.note? with | some note => .after note | none => use) rest := by
  cases event <;> rfl

theorem operationsFrom_append (use : Use) (first second : Trace) :
    operationsFrom use (first ++ second) =
      operationsFrom use first ++ operationsFrom (useAfter use first) second := by
  induction first generalizing use with
  | nil => rfl
  | cons moment rest ih =>
    obtain ⟨phase, event⟩ := moment
    rw [useAfter_cons]
    cases event with
    | noted note => exact ih (.after note)
    | wrote taken => exact congrArg (_ :: ·) (ih use)
    | writeFailed => exact congrArg (_ :: ·) (ih use)
    | flushed => exact congrArg (_ :: ·) (ih use)
    | flushFailed => exact congrArg (_ :: ·) (ih use)
    | _ => exact ih use

theorem useAfter_append (use : Use) (first second : Trace) :
    useAfter use (first ++ second) = useAfter (useAfter use first) second := by
  rw [useAfter, notes_append, List.foldl_append]
  rfl

/-- The sink takes nothing but what these operations write. -/
theorem output_eq_operations (use : Use) (trace : Trace) :
    output trace = (operationsFrom use trace).flatMap (·.event.written) := by
  induction trace generalizing use with
  | nil => rfl
  | cons moment rest ih =>
    obtain ⟨phase, event⟩ := moment
    rw [output_cons]
    cases event with
    | noted note => exact ih (.after note)
    | wrote taken => exact congrArg (taken ++ ·) (ih use)
    | _ => exact ih use

@[simp] theorem operationsFrom_ofNotes (use : Use) (phase : Phase) (notes : List Note) :
    operationsFrom use (ofNotes phase notes) = [] := by
  induction notes generalizing use with
  | nil => rfl
  | cons note rest ih => exact ih (.after note)

@[simp] theorem useAfter_ofNotes (use : Use) (phase : Phase) (notes : List Note) :
    useAfter use (ofNotes phase notes) = notes.foldl (fun _ note => .after note) use := by
  have kept : Trace.notes (ofNotes phase notes) = notes := by
    induction notes with
    | nil => rfl
    | cons note rest ih => exact congrArg (note :: ·) ih
  rw [useAfter, kept]

end Trace

end CommandShell
