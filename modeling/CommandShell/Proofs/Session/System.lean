import CommandShell.Proofs.Session.Pause

/-!
The loop of a session side by side with the reporters of the programs it has started. The loop moves
from one wait to the next; a reporter settles its process whenever it likes, or never.
-/

set_option autoImplicit false

namespace CommandShell

/-- What happens in a session and around it. Processes go by the number of launches attempted before
their own. -/
inductive Occurrence
  /-- The loop does something. A launch that succeeds has its process with it. -/
  | did (moment : Moment) (child : Option Nat)
  | read (reading : Reading)
  /-- The end of a process is reported, or its reporter goes away. -/
  | settled (child : Nat) (report : Report)
  /-- The loop begins to wait for a process. -/
  | awaited (child : Nat)
  /-- The wait is over. -/
  | received (child : Nat) (outcome : Except ProcessError Termination)

namespace Occurrence

def child? : Occurrence → Option Nat
  | .did _ child => child
  | .read _ => none
  | .settled child _ | .awaited child | .received child _ => some child

def reading? : Occurrence → Option Reading
  | .read reading => some reading
  | _ => none

def launched? : Occurrence → Option LaunchRequest
  | .did moment _ => moment.event.launched?
  | _ => none

def moment? : Occurrence → Option Moment
  | .did moment _ => some moment
  | _ => none

end Occurrence

abbrev History := List Occurrence

namespace History

def track (running : List Nat) : Occurrence → List Nat
  | .did _ (some child) => running ++ [child]
  | .settled child _ => running.filter (· != child)
  | _ => running

/-- The processes that have been started and have not been settled. -/
def outstanding (history : History) : List Nat := history.foldl track []

def readings (history : History) : List Reading := history.filterMap Occurrence.reading?

/-- What the loop has done. -/
def moments (history : History) : Trace := history.filterMap Occurrence.moment?

/-- What the loop does between two waits, with the process that it starts there. -/
def ofTrace (child : Option Nat) (trace : Trace) : History :=
  trace.map fun moment => .did moment (if moment.event.launched?.isSome then child else none)

end History

namespace Session

variable {ω σ : Type}

/-- Where the loop stands between two steps. -/
inductive Position (ω σ : Type)
  /-- It is about to ask for a line. -/
  | ready (items : List (Item ω σ))
  /-- The prompt is shown. -/
  | asked (items : List (Item ω σ))
  /-- A process has been started for a line. -/
  | started (child : Nat) (line name : Text) (process : RunningProcess) (items : List (Item ω σ))
  /-- The loop waits for it. -/
  | waiting (child : Nat) (line name : Text) (process : RunningProcess) (items : List (Item ω σ))
  | ended (result : Except ShellError Nat)

/-- A loop, the channels on which the ends of processes are reported to it, and all that has
happened. A report lies in its channel until the loop takes it out. -/
structure System (ω σ : Type) where
  position : Position ω σ
  session : State ω σ
  channels : List (Nat × Option Report)
  history : History

namespace Position

/-- Where the loop stands after its flush and its prompt. -/
def prompted (items : List (Item ω σ)) : Except ShellError Unit → Position ω σ
  | .ok () => .asked items
  | .error error => .ended (.error error)

/-- Where the loop stands after a reading, or after as much of it as goes without waiting. -/
def after (items : List (Item ω σ)) (child : Nat) : Except ShellError Paused → Position ω σ
  | .ok (.whole none) => .ready items
  | .ok (.whole (some code)) => .ended (.ok code)
  | .ok (.child line name process) => .started child line name process items
  | .error error => .ended (.error error)

end Position

/-- The process that has been started, if one has. -/
def startedBy (child : Nat) : Except ShellError Paused → Option Nat
  | .ok (.child _ _ _) => some child
  | _ => none

/-- Obeys the next reading of a script, as far as that goes without waiting. -/
def hear (setting : Setting ω σ) (item : Item ω σ) : Act ω σ ShellError Paused := do
  Act.arrange item.world item.adjust
  obeyUntil setting item.reading

/-- The state after what changes while a line is awaited. -/
def changed (item : Item ω σ) (before : State ω σ) : State ω σ :=
  { before with world := item.world.getD before.world, sink := item.adjust before.sink }

theorem hear_apply (setting : Setting ω σ) (item : Item ω σ) (before : State ω σ) :
    hear setting item before = obeyUntil setting item.reading (changed item before) := rfl

/-- The next reading: the end of the input, when the script is over. -/
def upcoming (items : List (Item ω σ)) : Item ω σ := items.headD closing

theorem startedBy_whole (child : Nat) (result : Except ShellError (Option Nat)) :
    startedBy child (result.map .whole) = none := by
  cases result <;> rfl

theorem startedBy_suspend (setting : Setting ω σ) (line : Text) (begun : Except ShellError Begun)
    (before : State ω σ) (child : Nat) :
    startedBy child (suspend setting line begun before).result = some child ↔
      ∃ name process, begun = .ok (.waiting name process) := by
  rcases begun with error | outcome | ⟨name, process⟩
  · simp [suspend, atOnce_apply, startedBy_whole]
  · simp [suspend, atOnce_apply, startedBy_whole]
  · simp [suspend, startedBy]

theorem suspend_launches (setting : Setting ω σ) (line : Text) (begun : Except ShellError Begun)
    (before : State ω σ) : (suspend setting line begun before).trace.launches = [] := by
  have concluded (begun : Except ShellError Begun) :
      (atOnce (resume setting line begun) before).trace.launches = [] := by
    rw [atOnce_apply]
    exact (resume_launches setting line begun before).1
  rcases begun with error | outcome | ⟨name, process⟩
  · exact concluded (.error error)
  · exact concluded (.ok (.done outcome))
  · rfl

/-- A process is started exactly where the host accepts the launch. -/
theorem waiting_iff_accepted {setting : Setting ω σ} {command : Command} {before : State ω σ}
    {errand : Errand} {ran : Ran ω σ ShellError Begun}
    (performed : Performed setting command before errand ran) :
    ∀ request ∈ ran.trace.launches, (∃ name process, ran.result = .ok (.waiting name process)) ↔
      ∃ process,
        (setting.host.launch before.attempts before.world request).outcome = .ok process := by
  intro request member
  cases performed with
  | refused program error written world flushed after done launched taken =>
    unfold launchOf at launched
    obtain rfl := List.mem_singleton.mp member
    simp [launched]
  | refusedUnsaid program error written world flushed refusal after done launched refused =>
    unfold launchOf at launched
    obtain rfl := List.mem_singleton.mp member
    simp [launched]
  | started program process written world flushed done launched =>
    unfold launchOf at launched
    rw [Trace.launches_append, Trace.launches_ofNotes, List.append_nil] at member
    obtain rfl := List.mem_singleton.mp member
    simp [launched]
  | _ => cases member

/-- The launch of a reading has a process with it exactly where the host accepts it. -/
theorem startedBy_iff_accepted (setting : Setting ω σ) (reading : Reading) (before : State ω σ) :
    let ran := obeyUntil setting reading before
    ∀ request ∈ ran.trace.launches, startedBy before.attempts ran.result = some before.attempts ↔
      ∃ process,
        (setting.host.launch before.attempts before.world request).outcome = .ok process := by
  intro ran request member
  cases reading with
  | line line =>
    cases blank : (Command.parse line).isBlank with
    | true =>
      have quiet : ran.trace.launches = [] := by
        unfold ran
        rw [obeyUntil, Act.bind_apply, Act.attempt_apply, beginLine_of_blank _ _ _ blank]
        rfl
      rw [quiet] at member
      cases member
    | false =>
      have performed := perform_cases setting (Command.parse line)
        (errandOf setting (Command.parse line) (State.dispatching before)) (State.dispatching before)
      unfold ran at member ⊢
      rw [obeyUntil_of_command _ _ _ blank] at member ⊢
      simp only [Trace.launches_append, suspend_launches, opening, Trace.launches_ofNotes,
        List.append_nil] at member
      exact (startedBy_suspend _ _ _ _ _).trans (waiting_iff_accepted performed request member)
  | interrupted => cases member
  | failed cause => cases member
  | endOfInput =>
    have whole : ran = atOnce (obey setting .endOfInput) before := rfl
    rw [whole, atOnce_apply, obey_endOfInput] at member
    have quiet := (finish_launches setting before).1
    simp only [quiet] at member
    cases member

/-- The steps of the loop, and those of the reporters. -/
inductive Step (setting : Setting ω σ) : System ω σ → System ω σ → Prop
  /-- The loop asks for a line. -/
  | ask (items : List (Item ω σ)) (session : State ω σ) (channels : List (Nat × Option Report))
      (history : History) (ran : Ran ω σ ShellError Unit) (asks : awaitLine setting session = ran) :
      Step setting ⟨.ready items, session, channels, history⟩
        ⟨.prompted items ran.result, ran.after, channels, history ++ History.ofTrace none ran.trace⟩
  /-- The loop gets a line, or whatever is read, and sees to it until it has to wait. -/
  | hear (items : List (Item ω σ)) (session : State ω σ) (channels : List (Nat × Option Report))
      (history : History) (ran : Ran ω σ ShellError Paused)
      (obeys : Session.hear setting (upcoming items) session = ran) :
      Step setting ⟨.asked items, session, channels, history⟩
        ⟨.after items.tail session.attempts ran.result, ran.after,
          channels ++ (startedBy session.attempts ran.result).toList.map (·, none),
          history ++ .read (upcoming items).reading ::
            History.ofTrace (startedBy session.attempts ran.result) ran.trace⟩
  /-- The loop begins to wait for the process it has started. -/
  | await (child : Nat) (line name : Text) (process : RunningProcess) (items : List (Item ω σ))
      (session : State ω σ) (channels : List (Nat × Option Report)) (history : History) :
      Step setting ⟨.started child line name process items, session, channels, history⟩
        ⟨.waiting child line name process items, session, channels, history ++ [.awaited child]⟩
  /-- A reporter settles its process, wherever the loop stands. -/
  | settle (position : Position ω σ) (session : State ω σ) (front back : List (Nat × Option Report))
      (child : Nat) (report : Report) (history : History) :
      Step setting ⟨position, session, front ++ (child, none) :: back, history⟩
        ⟨position, session, front ++ (child, some report) :: back,
          history ++ [.settled child report]⟩
  /-- The loop takes the report it has waited for, and goes on with the line. -/
  | receive (child : Nat) (line name : Text) (process : RunningProcess) (items : List (Item ω σ))
      (session : State ω σ) (front back : List (Nat × Option Report)) (report : Report)
      (history : History) (ran : Ran ω σ ShellError (Option Nat))
      (resumes : resume setting line (.ok (.waiting name { process with report })) session = ran) :
      Step setting
        ⟨.waiting child line name process items, session, front ++ (child, some report) :: back,
          history⟩
        ⟨.after items child (ran.result.map .whole), ran.after, front ++ back,
          history ++ .received child report.wait :: History.ofTrace none ran.trace⟩

theorem Step.history_grows {setting : Setting ω σ} {before after : System ω σ}
    (step : Step setting before after) : ∃ more, after.history = before.history ++ more := by
  cases step <;> exact ⟨_, rfl⟩

/-- A session that is to begin, with no process about. -/
def outset (items : List (Item ω σ)) (world : ω) (sink : σ) : System ω σ :=
  ⟨.ready items, start world sink, [], []⟩

/-- The systems that come about, in whatever order the loop and the reporters take their steps. -/
inductive Reachable (setting : Setting ω σ) (first : System ω σ) : System ω σ → Prop
  | start : Reachable setting first first
  | step (before after : System ω σ) (earlier : Reachable setting first before)
      (step : Step setting before after) : Reachable setting first after

end Session

end CommandShell
