import CommandShell.Program
import CommandShell.Proofs.Session.Fates

/-!
The log of a session, and what of a session it is an account of: the prompts, the launches, and the
notes on lines that are dispatched, on lines that fail and on the fates of programs.
-/

set_option autoImplicit false

namespace CommandShell

inductive Topic
  /-- A line is dispatched. -/
  | dispatch
  /-- A program was refused, is over or was lost sight of. -/
  | fate
  /-- A line could not be carried out. -/
  | failure
  deriving DecidableEq

def Topic.messages : Topic → List Text
  | .dispatch => ["dispatching".toList]
  | .fate =>
    ["launch failed".toList, "process finished".toList, "process finished unsuccessfully".toList,
      "lost track of process".toList]
  | .failure => ["dispatch failed".toList]

def Record.isOn (topic : Topic) (record : Record) : Bool := record.message ∈ topic.messages

def Note.topic? : Note → Option Topic
  | .dispatching _ _ => some .dispatch
  | .dispatchFailed _ _ => some .failure
  | note => if note.tellsFate then some .fate else none

/-- The message of a record tells the note it was made of. -/
theorem Note.record_isOn (topic : Topic) (note : Note) :
    note.record.isOn topic = (note.topic? == some topic) := by
  cases topic <;> cases note <;> rfl

/-- What is on a topic is worth a record when faults are traced. -/
theorem Note.admits_of_topic {note : Note} {topic : Topic} (told : note.topic? = some topic) :
    (Filter.upTo .debug).admits note.record = true := by
  cases note with
  | moved previous next => cases told
  | lookedUp name found => cases told
  | _ => rfl

/-- Of all notes only those on lost programs are warnings. -/
theorem Note.admits_warn (note : Note) :
    (Filter.upTo .warn).admits note.record =
      ((Filter.upTo .debug).admits note.record &&
        decide (note.record.message = "lost track of process".toList)) := by
  cases note <;> rfl

/-- What an event says on a topic. -/
def Event.recordOn? (topic : Topic) : Event → Option Record
  | .noted note => if note.topic? = some topic then some note.record else none
  | _ => none

/-- Whether the log has to account for an event, or does so by it. -/
def Event.counts : Event → Bool
  | .prompt _ | .launch _ => true
  | .noted note => note.topic?.isSome
  | _ => false

namespace Trace

/-- The records that are shown of a trace down to a level, in order. -/
def log (level : Level) (trace : Trace) : List Record :=
  (trace.notes.map Note.record).filter (Filter.upTo level).admits

@[simp] theorem log_append (level : Level) (first second : Trace) :
    log level (first ++ second) = log level first ++ log level second := by
  simp only [log, notes_append, List.map_append, List.filter_append]

/-- The events the log has to account for, among those by which it does so. -/
def journal (trace : Trace) : List Event := (trace.map Moment.event).filter Event.counts

@[simp] theorem journal_nil : journal [] = [] := rfl

@[simp] theorem journal_cons (moment : Moment) (rest : Trace) :
    journal (moment :: rest) =
      if moment.event.counts then moment.event :: journal rest else journal rest := by
  simp only [journal, List.map_cons, List.filter_cons]

@[simp] theorem journal_append (first second : Trace) :
    journal (first ++ second) = journal first ++ journal second := by
  simp only [journal, List.map_append, List.filter_append]

theorem journal_ofNotes (phase : Phase) (notes : List Note) :
    journal (ofNotes phase notes) =
      (notes.filter fun note => note.topic?.isSome).map Event.noted := by
  induction notes with
  | nil => rfl
  | cons note rest ih =>
    rw [ofNotes_cons, journal_cons, List.filter_cons, ih]
    change (if note.topic?.isSome = true then _ else _) = _
    split <;> rfl

theorem launches_eq_journal (trace : Trace) :
    trace.launches = trace.journal.filterMap Event.launched? := by
  induction trace with
  | nil => rfl
  | cons moment rest ih =>
    obtain ⟨phase, event⟩ := moment
    rw [journal_cons]
    cases event with
    | launch request => exact congrArg (request :: ·) ih
    | noted note =>
      change launches rest = _
      split <;> exact ih
    | _ => exact ih

theorem prompts_eq_journal (trace : Trace) :
    trace.prompts = trace.journal.countP Event.isPrompt := by
  rw [prompts, journal, List.countP_filter, List.countP_map]
  apply List.countP_congr
  intro moment _
  cases event : moment.event <;> simp [event, Event.isPrompt, Event.counts]

theorem journal_takeWhile (trace : Trace) :
    journal (trace.takeWhile fun moment => !moment.event.isPrompt) =
      trace.journal.takeWhile fun event => !event.isPrompt := by
  rw [journal, journal, List.takeWhile_filter, List.takeWhile_map]
  congr 3
  funext moment
  cases event : moment.event <;> simp [event, Event.isPrompt, Event.counts]

/-- The log of a trace on a topic is what its journal says on it. -/
theorem log_isOn (topic : Topic) (trace : Trace) :
    (trace.log .debug).filter (·.isOn topic) =
      trace.journal.filterMap (Event.recordOn? topic) := by
  simp only [log, notes, journal, List.map_filterMap, List.filter_filterMap, List.filterMap_filter,
    List.filterMap_map]
  congr 1
  funext moment
  simp only [Function.comp_apply]
  cases moment.event with
  | noted note =>
    by_cases told : note.topic? = some topic
    · simp [Event.note?, Event.counts, Event.recordOn?, Note.record_isOn, told,
        Note.admits_of_topic told]
    · have off : note.record.isOn topic = false := by simp [Note.record_isOn, told]
      simp only [Event.note?, Option.map_some, Option.filter_some, Event.recordOn?, told, ↓reduceIte,
        ite_self]
      cases (Filter.upTo .debug).admits note.record with
      | true => simp [off]
      | false => rfl
  | _ => rfl

/-- At the level of warnings the log tells of lost programs, and of nothing else. -/
theorem log_warn (trace : Trace) :
    trace.log .warn =
      (trace.log .debug).filter (·.message = "lost track of process".toList) := by
  rw [log, log, List.filter_filter, List.filter_map, List.filter_map]
  congr 2
  funext note
  rw [Function.comp_apply, Function.comp_apply, Note.admits_warn, Bool.and_comm]

end Trace

def Diagnostic.record? : Diagnostic → Option Record
  | .record shown => some shown
  | .raw _ => none

/-- The log is what the program shows of a session when the options name the level. -/
theorem Program.records_shown (level : Level) (trace : Trace) :
    ((Terminal.diagnostics trace).filter (shows (.upTo level))).filterMap Diagnostic.record? =
      trace.log level := by
  induction trace with
  | nil => rfl
  | cons moment rest ih =>
    obtain ⟨phase, event⟩ := moment
    cases event with
    | noted note =>
      change List.filterMap _ (List.filter _ (.record note.record :: Terminal.diagnostics rest)) =
        List.filter _ (note.record :: (Trace.notes rest).map Note.record)
      rw [List.filter_cons, List.filter_cons, shows]
      split
      · exact congrArg (note.record :: ·) ih
      · exact ih
    | _ => exact ih

end CommandShell
