import CommandShell.Log.Note
import CommandShell.Process.Running

/-!
What happens in a session, in order, and the phase it happens in.
-/

set_option autoImplicit false

namespace CommandShell

inductive Event
  /-- A line is asked for. -/
  | prompt (text : Text)
  /-- The sink has taken these bytes. -/
  | wrote (taken : Bytes)
  | writeFailed
  | flushed
  | flushFailed
  /-- A program is to be started, whether or not it can be. -/
  | launch (request : LaunchRequest)
  /-- A program has been started that writes this before it ends. -/
  | performed (written : Written)
  /-- A started program has ended or was lost sight of. -/
  | ended (name : Text)
  | noted (note : Note)
  deriving DecidableEq

/-- An event and the phase it falls into. -/
structure Moment where
  phase : Phase
  event : Event
  deriving DecidableEq

abbrev Trace := List Moment

def Event.written : Event → Bytes
  | .wrote taken => taken
  | _ => []

def Event.launched? : Event → Option LaunchRequest
  | .launch request => some request
  | _ => none

def Event.note? : Event → Option Note
  | .noted note => some note
  | _ => none

namespace Trace

/-- All that the sink has taken. -/
def output (trace : Trace) : Bytes := trace.flatMap (·.event.written)

/-- The attempts to start programs. -/
def launches (trace : Trace) : List LaunchRequest := trace.filterMap (·.event.launched?)

def notes (trace : Trace) : List Note := trace.filterMap (·.event.note?)

@[simp] theorem output_nil : output [] = [] := rfl

@[simp] theorem output_cons (moment : Moment) (rest : Trace) :
    output (moment :: rest) = moment.event.written ++ output rest := rfl

@[simp] theorem output_append (first second : Trace) :
    output (first ++ second) = output first ++ output second := by
  simp [output]

@[simp] theorem launches_append (first second : Trace) :
    launches (first ++ second) = launches first ++ launches second := by
  simp [launches]

@[simp] theorem notes_append (first second : Trace) :
    notes (first ++ second) = notes first ++ notes second := by
  simp [notes]

end Trace

end CommandShell
