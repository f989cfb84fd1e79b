import CommandShell.Terminal

/-!
The output stream, told by those who write on it: the session, the programs it starts, and the line
reader, which shows the prompts on some terminals.
-/

set_option autoImplicit false

namespace CommandShell

/-- Who writes on the output stream. -/
inductive Voice
  | session
  | program
  | reader
  deriving DecidableEq

/-- What one of them writes at once. -/
structure Part where
  voice : Voice
  bytes : Bytes
  deriving DecidableEq

def Event.part? : Event → Option Part
  | .wrote taken => some ⟨.session, taken⟩
  | .performed written => some ⟨.program, written.output⟩
  | .prompt text => some ⟨.reader, Utf8.encode text⟩
  | _ => none

namespace Part

/-- Whether a part is seen where the prompts are shown, or are not. -/
def isSeen (prompts : Bool) (part : Part) : Bool := part.voice ≠ .reader || prompts

def joined (parts : List Part) : Bytes := parts.flatMap bytes

/-- What one of them has written among all. -/
def said (voice : Voice) (parts : List Part) : Bytes := joined (parts.filter (·.voice = voice))

theorem joined_cons (part : Part) (rest : List Part) :
    joined (part :: rest) = part.bytes ++ joined rest := List.flatMap_cons

/-- Without prompts, and where the programs are silent, only the session is left. -/
theorem joined_of_silent (parts : List Part) (silent : said .program parts = []) :
    joined (parts.filter (isSeen false)) = said .session parts := by
  induction parts with
  | nil => rfl
  | cons part rest ih =>
    obtain ⟨voice, bytes⟩ := part
    cases voice with
    | session => exact congrArg (bytes ++ ·) (ih silent)
    | reader => exact ih silent
    | program =>
      obtain ⟨here, others⟩ := List.append_eq_nil_iff.mp ((joined_cons _ _).symm.trans silent)
      exact (congrArg (· ++ _) here).trans (ih others)

end Part

namespace Trace

/-- What is written during a trace, in order. -/
def parts (trace : Trace) : List Part := trace.filterMap (·.event.part?)

/-- The session has written what its sink has taken. -/
theorem said_session (trace : Trace) : Part.said .session trace.parts = trace.output := by
  induction trace with
  | nil => rfl
  | cons moment rest ih =>
    obtain ⟨phase, event⟩ := moment
    cases event with
    | wrote taken => exact congrArg (taken ++ ·) ih
    | _ => exact ih

end Trace

namespace Terminal

theorem output_cons (machine : Machine) (moment : Moment) (rest : Trace) :
    output machine (moment :: rest) = outputOf machine moment.event ++ output machine rest :=
  List.flatMap_cons

/-- The output stream holds all that is written, in order, but for prompts that are not shown. -/
theorem output_eq_parts (machine : Machine) (trace : Trace) :
    output machine trace =
      Part.joined (trace.parts.filter (Part.isSeen (showsPrompts machine))) := by
  induction trace with
  | nil => rfl
  | cons moment rest ih =>
    obtain ⟨phase, event⟩ := moment
    rw [output_cons, ih]
    cases event with
    | prompt text =>
      rw [outputOf]
      cases showsPrompts machine <;> rfl
    | _ => rfl

/-- Where no prompts are shown and no program writes, it holds what the sink has taken. -/
theorem output_of_silent {machine : Machine} {trace : Trace}
    (hidden : showsPrompts machine = false) (silent : Part.said .program trace.parts = []) :
    output machine trace = trace.output := by
  rw [output_eq_parts, hidden, Part.joined_of_silent _ silent, Trace.said_session]

end Terminal

end CommandShell
