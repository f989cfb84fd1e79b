import CommandShell.Proofs.Session.Histories

/-!
However the loop and the reporters take turns, there is one process at a time, and the loop keeps quiet
until it is settled.
-/

set_option autoImplicit false

namespace CommandShell.Session

variable {ω σ : Type}

/-- What a script has left to read. -/
def unread (items : List (Item ω σ)) : List Reading := items.map Item.reading ++ [.endOfInput]

/-- A process that was started and whose end has not been received: its report is still to come, or
lies in its channel. -/
def Pending (child : Nat) (channels : List (Nat × Option Report)) (history : History) : Prop :=
  (∀ outcome, .received child outcome ∉ history) ∧
    ((channels = [(child, none)] ∧ history.outstanding = [child] ∧
        ∀ report, .settled child report ∉ history) ∨
      ∃ report, channels = [(child, some report)] ∧ history.outstanding = [] ∧
        .settled child report ∈ history)

/-- How the position of the loop, the channels and the history go together. -/
def Stands (script : List Reading) (system : System ω σ) : Prop :=
  match system.position with
  | .ready items | .asked items =>
    system.channels = [] ∧ system.history.outstanding = [] ∧
      system.history.readings ++ unread items = script
  | .started child _ _ _ items | .waiting child _ _ _ items =>
    child < system.session.attempts ∧ Pending child system.channels system.history ∧
      system.history.readings ++ unread items = script
  | .ended _ =>
    system.channels = [] ∧ system.history.outstanding = [] ∧ system.history.readings <+: script

structure Sound (script : List Reading) (system : System ω σ) : Prop where
  lawful : system.history.IsLawful
  fresh : system.history.Fresh system.session.attempts
  stands : Stands script system

theorem Pending.channels_length {child : Nat} {channels : List (Nat × Option Report)}
    {history : History} (pending : Pending child channels history) : channels.length = 1 := by
  rcases pending.2 with ⟨rfl, -⟩ | ⟨report, rfl, -⟩ <;> rfl

/-- Nothing is pending where a line is asked for or the session has ended. -/
theorem Sound.running_of_channel {script : List Reading} {position : Position ω σ} {session : State ω σ}
    {front back : List (Nat × Option Report)} {entry : Nat × Option Report} {history : History}
    (sound : Sound script ⟨position, session, front ++ entry :: back, history⟩) :
    ∃ child line name process items,
      (position = .started child line name process items ∨
        position = .waiting child line name process items) ∧
      front = [] ∧ back = [] ∧ entry.1 = child := by
  have stands := sound.stands
  have single (child : Nat) (pending : Pending child (front ++ entry :: back) history) :
      front = [] ∧ back = [] ∧ entry.1 = child := by
    have alone := pending.channels_length
    rw [List.length_append, List.length_cons] at alone
    have none_before : front = [] := List.eq_nil_of_length_eq_zero (by omega)
    have none_after : back = [] := List.eq_nil_of_length_eq_zero (by omega)
    subst none_before none_after
    refine ⟨rfl, rfl, ?_⟩
    rcases pending.2 with ⟨same, -⟩ | ⟨report, same, -⟩
    · rw [List.nil_append, List.cons.injEq] at same
      rw [same.1]
    · rw [List.nil_append, List.cons.injEq] at same
      rw [same.1]
  cases position with
  | started child line name process items =>
    exact ⟨child, line, name, process, items, .inl rfl, single child stands.2.1⟩
  | waiting child line name process items =>
    exact ⟨child, line, name, process, items, .inr rfl, single child stands.2.1⟩
  | ready items => simp [Stands] at stands
  | asked items => simp [Stands] at stands
  | ended result => simp [Stands] at stands

theorem settle_sound {script : List Reading} {position : Position ω σ} {session : State ω σ}
    {front back : List (Nat × Option Report)} {child : Nat} {history : History}
    (sound : Sound script ⟨position, session, front ++ (child, none) :: back, history⟩)
    (report : Report) :
    Sound script ⟨position, session, front ++ (child, some report) :: back,
      history ++ [.settled child report]⟩ := by
  obtain ⟨number, line, name, process, items, place, rfl, rfl, same⟩ := sound.running_of_channel
  subst same
  have stands : child < session.attempts ∧ Pending child [(child, none)] history ∧
      history.readings ++ unread items = script := by
    rcases place with rfl | rfl
    · exact sound.stands
    · exact sound.stands
  obtain ⟨counted, ⟨unreceived, open_or_not⟩, listed⟩ := stands
  obtain ⟨running, unsettled⟩ : history.outstanding = [child] ∧
      ∀ report, .settled child report ∉ history := by
    rcases open_or_not with ⟨-, still⟩ | ⟨given, different, -⟩
    · exact still
    · cases different
  have pending : Pending child [(child, some report)] (history ++ [.settled child report]) := by
    refine ⟨?_, .inr ⟨report, rfl, ?_, List.mem_append_right _ List.mem_cons_self⟩⟩
    · intro outcome member
      rcases List.mem_append.mp member with earlier | now
      · exact unreceived outcome earlier
      · cases List.mem_singleton.mp now
    · rw [History.outstanding_snoc, running]
      simp [History.track]
  refine ⟨sound.lawful.snoc ⟨by simp [running], unsettled⟩, ?_, ?_⟩
  · apply sound.fresh.snoc
    intro number same
    cases same
    exact counted
  · have read := History.readings_snoc history (.settled child report) rfl
    rcases place with rfl | rfl
    · exact ⟨counted, pending, by rw [read]; exact listed⟩
    · exact ⟨counted, pending, by rw [read]; exact listed⟩

theorem await_sound {script : List Reading} {child : Nat} {line name : Text}
    {process : RunningProcess} {items : List (Item ω σ)} {session : State ω σ}
    {channels : List (Nat × Option Report)} {history : History}
    (sound : Sound script ⟨.started child line name process items, session, channels, history⟩) :
    Sound script
      ⟨.waiting child line name process items, session, channels, history ++ [.awaited child]⟩ := by
  obtain ⟨counted, ⟨unreceived, open_or_not⟩, listed⟩ := sound.stands
  refine ⟨sound.lawful.snoc trivial, ?_, counted, ⟨?_, ?_⟩, ?_⟩
  · apply sound.fresh.snoc
    intro number same
    cases same
    exact counted
  · intro outcome member
    rcases List.mem_append.mp member with earlier | now
    · exact unreceived outcome earlier
    · cases List.mem_singleton.mp now
  · rw [History.outstanding_snoc]
    rcases open_or_not with ⟨empty, running, unsettled⟩ | ⟨report, given, free, settled⟩
    · refine .inl ⟨empty, running, ?_⟩
      intro report member
      rcases List.mem_append.mp member with earlier | now
      · exact unsettled report earlier
      · cases List.mem_singleton.mp now
    · exact .inr ⟨report, given, free, List.mem_append_left _ settled⟩
  · rw [History.readings_snoc history (.awaited child) rfl]
    exact listed

theorem ask_sound (setting : Setting ω σ) {script : List Reading} {items : List (Item ω σ)}
    {session : State ω σ} {channels : List (Nat × Option Report)} {history : History}
    (sound : Sound script ⟨.ready items, session, channels, history⟩) :
    let ran := awaitLine setting session
    Sound script ⟨.prompted items ran.result, ran.after, channels,
      history ++ History.ofTrace none ran.trace⟩ := by
  intro ran
  obtain ⟨none_launched, kept⟩ := awaitLine_launches setting session
  obtain ⟨rfl, free, listed⟩ := sound.stands
  rw [History.ofTrace_none]
  have read := History.readings_append_unlabelled history ran.trace
  have still_free := (History.outstanding_append_unlabelled history ran.trace).trans free
  refine ⟨?_, ?_, ?_⟩
  · exact sound.lawful.append_unlabelled _ none_launched (fun running => absurd free running)
  · rw [kept]
    exact sound.fresh.append_unlabelled _
  · cases ran.result with
    | ok value => exact ⟨rfl, still_free, by rw [read]; exact listed⟩
    | error error => exact ⟨rfl, still_free, by rw [read, ← listed]; exact List.prefix_append _ _⟩

/-- Where the loop stands when nothing is left to wait for. -/
theorem stands_of_whole {script : List Reading} {items : List (Item ω σ)} {child : Nat}
    {result : Except ShellError (Option Nat)} {session : State ω σ} {history : History}
    (free : history.outstanding = []) (listed : history.readings <+: script)
    (more : result = .ok none → history.readings ++ unread items = script) :
    Stands script ⟨.after items child (result.map .whole), session, [], history⟩ := by
  rcases result with error | _ | code
  · exact ⟨rfl, free, listed⟩
  · exact ⟨rfl, free, more rfl⟩
  · exact ⟨rfl, free, listed⟩

/-- A report that lies in the channel of the process waited for is the one it was settled with. -/
theorem Sound.settled_of_waiting {script : List Reading} {child : Nat} {line name : Text}
    {process : RunningProcess} {items : List (Item ω σ)} {session : State ω σ}
    {front back : List (Nat × Option Report)} {report : Report} {history : History}
    (sound : Sound script ⟨.waiting child line name process items, session,
      front ++ (child, some report) :: back, history⟩) :
    history.outstanding = [] ∧ .settled child report ∈ history := by
  obtain ⟨_, _, _, _, _, -, rfl, rfl, -⟩ := sound.running_of_channel
  obtain ⟨-, ⟨-, given⟩, -⟩ := sound.stands
  rcases given with ⟨empty, -⟩ | ⟨other, same, free, settled⟩
  · cases empty
  · cases same
    exact ⟨free, settled⟩

theorem receive_sound (setting : Setting ω σ) {script : List Reading} {child : Nat}
    {line name : Text} {process : RunningProcess} {items : List (Item ω σ)} {session : State ω σ}
    {front back : List (Nat × Option Report)} {report : Report} {history : History}
    (sound : Sound script ⟨.waiting child line name process items, session,
      front ++ (child, some report) :: back, history⟩) :
    let ran := resume setting line (.ok (.waiting name { process with report })) session
    Sound script ⟨.after items child (ran.result.map .whole), ran.after, front ++ back,
      history ++ .received child report.wait :: History.ofTrace none ran.trace⟩ := by
  intro ran
  obtain ⟨none_launched, kept⟩ := resume_launches setting line
    (.ok (.waiting name { process with report })) session
  obtain ⟨free, settled⟩ := sound.settled_of_waiting
  obtain ⟨_, _, _, _, _, -, rfl, rfl, -⟩ := sound.running_of_channel
  obtain ⟨counted, ⟨unreceived, -⟩, listed⟩ := sound.stands
  have received : History.IsLawful (history ++ [.received child report.wait]) :=
    sound.lawful.snoc ⟨⟨report, settled, rfl⟩, unreceived⟩
  have still_free : History.outstanding (history ++ [.received child report.wait]) = [] := by
    rw [History.outstanding_snoc, free]
    rfl
  rw [List.append_cons, History.ofTrace_none]
  refine ⟨?_, ?_, ?_⟩
  · exact received.append_unlabelled _ none_launched (fun running => absurd still_free running)
  · rw [kept]
    apply History.Fresh.append_unlabelled
    apply sound.fresh.snoc
    intro number same
    cases same
    exact counted
  · have read : History.readings (history ++ [.received child report.wait] ++
        ran.trace.map (.did · none)) = history.readings := by
      rw [History.readings_append_unlabelled, History.readings_snoc history _ rfl]
    refine stands_of_whole ?_ ?_ ?_
    · rw [History.outstanding_append_unlabelled]
      exact still_free
    · rw [read, ← listed]
      exact List.prefix_append _ _
    · intro _
      rw [read]
      exact listed

theorem unread_upcoming (items : List (Item ω σ)) :
    ∃ others, unread items = (upcoming items).reading :: others ∧
      ((upcoming items).reading ≠ .endOfInput → others = unread items.tail) := by
  cases items with
  | nil => exact ⟨[], rfl, fun more => absurd rfl more⟩
  | cons item rest => exact ⟨unread rest, rfl, fun _ => rfl⟩

theorem split_launch {trace : Trace} {request : LaunchRequest} (one : trace.launches = [request]) :
    ∃ (front : Trace) (phase : Phase) (back : Trace),
      trace = front ++ ⟨phase, .launch request⟩ :: back ∧
        front.launches = [] ∧ back.launches = [] := by
  obtain ⟨front, ⟨phase, event⟩, back, rfl, first, launched, last⟩ :=
    List.filterMap_eq_cons_iff.mp one
  have same : event = .launch request := by
    cases event <;> simp [Event.launched?] at launched
    rw [launched]
  subst same
  exact ⟨front, phase, back, rfl, List.filterMap_eq_nil_iff.mpr first, last⟩

/-- A reading that starts no process leaves nothing to wait for. -/
theorem hear_whole_sound {script : List Reading} {items : List (Item ω σ)} {session after : State ω σ}
    {history : History} (sound : Sound script ⟨.asked items, session, [], history⟩) (child : Nat)
    (result : Except ShellError (Option Nat)) (trace : Trace)
    (launched : LaunchesFor (upcoming items).reading trace)
    (counted : session.attempts ≤ after.attempts)
    (closed : (upcoming items).reading = .endOfInput → result ≠ .ok none) :
    Sound script ⟨.after items.tail child (result.map .whole), after, [],
      history ++ .read (upcoming items).reading :: trace.map (.did · none)⟩ := by
  obtain ⟨-, free, listed⟩ := sound.stands
  obtain ⟨others, unheard, tail⟩ := unread_upcoming items
  have heard : History.IsLawful (history ++ [.read (upcoming items).reading]) :=
    sound.lawful.snoc free
  have still_free : History.outstanding (history ++ [.read (upcoming items).reading]) = [] := by
    rw [History.outstanding_snoc]
    exact free
  have read : History.readings (history ++ [.read (upcoming items).reading] ++
      trace.map (.did · none)) = history.readings ++ [(upcoming items).reading] := by
    rw [History.readings_append_unlabelled, History.readings_snoc_read]
  refine ⟨?_, ?_, ?_⟩
  · rcases launched with none_launched | ⟨line, request, same, one, serves⟩
    · rw [List.append_cons]
      exact heard.append_unlabelled _ none_launched (fun running => absurd still_free running)
    · obtain ⟨front, phase, back, rfl, first, last⟩ := split_launch one
      rw [same, List.map_append, List.map_cons]
      exact sound.lawful.append_launch line front back phase request none free serves first last
        (by simp) (by simp)
  · rw [List.append_cons]
    apply History.Fresh.append_unlabelled
    exact (sound.fresh.mono counted).snoc _ (by simp [Occurrence.child?])
  · rw [List.append_cons]
    refine stands_of_whole ?_ ?_ ?_
    · rw [History.outstanding_append_unlabelled]
      exact still_free
    · rw [read, ← listed, unheard]
      exact ⟨others, (List.append_cons _ _ _).symm⟩
    · intro goesOn
      have more : (upcoming items).reading ≠ .endOfInput := fun atEnd => closed atEnd goesOn
      rw [read, ← tail more, ← listed, unheard]
      simp

/-- A reading that starts a process leaves its report to wait for. -/
theorem hear_child_sound {script : List Reading} {items : List (Item ω σ)} {session after : State ω σ}
    {history : History} (sound : Sound script ⟨.asked items, session, [], history⟩)
    (line name : Text) (process : RunningProcess) (request : LaunchRequest) (phase : Phase)
    (front back : Trace) (read : (upcoming items).reading = .line line)
    (serves : request.Serves line) (first : front.launches = [])
    (quiet : ∀ moment ∈ back, moment.event.Quiet) (counted : session.attempts < after.attempts) :
    Sound script ⟨.started session.attempts line name process items.tail, after,
      [(session.attempts, none)],
      history ++ .read (upcoming items).reading :: (front.map (.did · none) ++
        .did ⟨phase, .launch request⟩ (some session.attempts) :: back.map (.did · none))⟩ := by
  obtain ⟨-, free, listed⟩ := sound.stands
  obtain ⟨others, unheard, tail⟩ := unread_upcoming items
  have last : back.launches = [] :=
    List.filterMap_eq_nil_iff.mpr (fun moment member => (quiet moment member).2.1)
  have unmentioned : ∀ occurrence ∈ history, occurrence.child? ≠ some session.attempts := by
    intro occurrence member mentions
    exact Nat.lt_irrefl _ (sound.fresh occurrence member _ mentions)
  have lawful := sound.lawful.append_launch line front back phase request (some session.attempts) free
    serves first last (fun _ => quiet) (by
      intro number same
      cases same
      exact unmentioned)
  have block : history ++ .read (upcoming items).reading :: (front.map (.did · none) ++
      .did ⟨phase, .launch request⟩ (some session.attempts) :: back.map (.did · none)) =
      history ++ [.read (upcoming items).reading] ++ front.map (.did · none) ++
        [.did ⟨phase, .launch request⟩ (some session.attempts)] ++ back.map (.did · none) := by
    simp
  have running : History.outstanding (history ++ .read (upcoming items).reading ::
      (front.map (.did · none) ++ .did ⟨phase, .launch request⟩ (some session.attempts) ::
        back.map (.did · none))) = [session.attempts] := by
    rw [block, History.outstanding_append_unlabelled, History.outstanding_snoc,
      History.outstanding_append_unlabelled, History.outstanding_snoc, free]
    rfl
  refine ⟨by rw [read]; exact lawful, ?_, ?_⟩
  · rw [block]
    apply History.Fresh.append_unlabelled
    have heard := (sound.fresh.mono (Nat.le_of_lt counted)).snoc (.read (upcoming items).reading)
      (by simp [Occurrence.child?])
    apply (heard.append_unlabelled front).snoc
    intro number same
    cases same
    exact counted
  · refine ⟨counted, ⟨?_, .inl ⟨rfl, running, ?_⟩⟩, ?_⟩
    · intro outcome member
      simp only [List.mem_append, List.mem_cons, List.mem_map, reduceCtorEq, and_false, exists_false,
        or_false] at member
      exact unmentioned _ member rfl
    · intro report member
      simp only [List.mem_append, List.mem_cons, List.mem_map, reduceCtorEq, and_false, exists_false,
        or_false] at member
      exact unmentioned _ member rfl
    · have more : (upcoming items).reading ≠ .endOfInput := by
        rw [read]
        simp
      have heard : History.readings (history ++ .read (upcoming items).reading ::
          (front.map (.did · none) ++ .did ⟨phase, .launch request⟩ (some session.attempts) ::
            back.map (.did · none))) = history.readings ++ [(upcoming items).reading] := by
        rw [block, History.readings_append_unlabelled, History.readings_snoc _ _ rfl,
          History.readings_append_unlabelled, History.readings_snoc_read]
      rw [heard, ← tail more, ← listed, unheard]
      exact (List.append_cons _ _ _).symm

theorem hear_stopped (setting : Setting ω σ) (item : Item ω σ) (before : State ω σ) :
    Stopped item.reading before.attempts (hear setting item before) := by
  rw [hear_apply]
  exact obeyUntil_stopped setting item.reading (changed item before)

theorem hear_sound (setting : Setting ω σ) {script : List Reading} {items : List (Item ω σ)}
    {session : State ω σ} {channels : List (Nat × Option Report)} {history : History}
    (sound : Sound script ⟨.asked items, session, channels, history⟩) :
    let ran := hear setting (upcoming items) session
    Sound script ⟨.after items.tail session.attempts ran.result, ran.after,
      channels ++ (startedBy session.attempts ran.result).toList.map (·, none),
      history ++ .read (upcoming items).reading ::
        History.ofTrace (startedBy session.attempts ran.result) ran.trace⟩ := by
  intro ran
  have stopped : Stopped (upcoming items).reading session.attempts ran :=
    hear_stopped setting (upcoming items) session
  obtain ⟨rfl, -, -⟩ := sound.stands
  generalize ran = last at stopped ⊢
  cases stopped with
  | whole result after trace launched counted closed =>
    have none_started : startedBy session.attempts (result.map Paused.whole) = none := by
      rcases result with error | code <;> rfl
    simp only [none_started, Option.toList_none, List.map_nil, List.append_nil, History.ofTrace_none]
    exact hear_whole_sound sound session.attempts result trace launched counted closed
  | child line name process request phase after front back read serves first quiet counted =>
    have last : Trace.launches back = [] :=
      List.filterMap_eq_nil_iff.mpr (fun moment member => (quiet moment member).2.1)
    have labelled : History.ofTrace (some session.attempts)
        (front ++ ⟨phase, .launch request⟩ :: back) = front.map (.did · none) ++
          .did ⟨phase, .launch request⟩ (some session.attempts) :: back.map (.did · none) := by
      rw [← History.ofTrace_of_launches_nil (some session.attempts) front first,
        ← History.ofTrace_of_launches_nil (some session.attempts) back last, History.ofTrace,
        List.map_append, List.map_cons]
      rfl
    simp only [startedBy, labelled]
    exact hear_child_sound sound line name process request phase front back read serves first quiet
      counted

/-- What a step preserves. -/
theorem Step.sound {setting : Setting ω σ} {script : List Reading} {before after : System ω σ}
    (step : Step setting before after) (sound : Sound script before) : Sound script after := by
  cases step with
  | ask items session channels history ran asks =>
    subst asks
    exact ask_sound setting sound
  | hear items session channels history ran obeys =>
    subst obeys
    exact hear_sound setting sound
  | await child line name process items session channels history => exact await_sound sound
  | settle position session front back child report history => exact settle_sound sound report
  | receive child line name process items session front back report history ran resumes =>
    subst resumes
    exact receive_sound setting sound

/-- What every run preserves, whatever the order of its steps. -/
theorem Reachable.sound {setting : Setting ω σ} {items : List (Item ω σ)} {world : ω} {sink : σ}
    {system : System ω σ} (reached : Reachable setting (outset items world sink) system) :
    Sound (unread items) system := by
  induction reached with
  | start => exact ⟨History.isLawful_nil, by simp [outset, History.Fresh], rfl, rfl, rfl⟩
  | step before after earlier step ih => exact step.sound ih

/-- The channels on which a report is still to come. -/
def System.unsettled (system : System ω σ) : List Nat :=
  (system.channels.filter (·.2.isNone)).map Prod.fst

theorem Sound.unsettled_eq {script : List Reading} {system : System ω σ}
    (sound : Sound script system) :
    system.unsettled = system.history.outstanding := by
  obtain ⟨position, session, channels, history⟩ := system
  have stands := sound.stands
  have waits (child : Nat) (pending : Pending child channels history) :
      (channels.filter (·.2.isNone)).map Prod.fst = history.outstanding := by
    rcases pending.2 with ⟨rfl, running, -⟩ | ⟨report, rfl, free, -⟩
    · exact running.symm
    · exact free.symm
  cases position with
  | ready items => rw [System.unsettled, stands.1, stands.2.1]; rfl
  | asked items => rw [System.unsettled, stands.1, stands.2.1]; rfl
  | started child line name process items => exact waits child stands.2.1
  | waiting child line name process items => exact waits child stands.2.1
  | ended result => rw [System.unsettled, stands.1, stands.2.1]; rfl

theorem Sound.readings_prefix {script : List Reading} {system : System ω σ}
    (sound : Sound script system) : system.history.readings <+: script := by
  obtain ⟨position, session, channels, history⟩ := system
  have stands := sound.stands
  cases position with
  | ready items => exact ⟨_, stands.2.2⟩
  | asked items => exact ⟨_, stands.2.2⟩
  | started child line name process items => exact ⟨_, stands.2.2⟩
  | waiting child line name process items => exact ⟨_, stands.2.2⟩
  | ended result => exact stands.2.2

/-- A process is settled no more than once. -/
theorem settled_once {history past later : History} {child : Nat} {report : Report}
    (lawful : history.IsLawful) (whole : history = past ++ .settled child report :: later)
    (other : Report) : .settled child other ∉ past ++ later := by
  intro again
  refine lawful.once whole (fun occurrence => ∃ given, occurrence = .settled child given)
    ⟨report, rfl⟩ ?_ _ again ⟨other, rfl⟩
  rintro earlier _ ⟨given, rfl⟩ ⟨-, unsettled⟩ _ member ⟨previous, rfl⟩
  exact unsettled previous member

/-- A process is received no more than once. -/
theorem received_once {history past later : History} {child : Nat}
    {outcome : Except ProcessError Termination} (lawful : history.IsLawful)
    (whole : history = past ++ .received child outcome :: later)
    (other : Except ProcessError Termination) : .received child other ∉ past ++ later := by
  intro again
  refine lawful.once whole (fun occurrence => ∃ given, occurrence = .received child given)
    ⟨outcome, rfl⟩ ?_ _ again ⟨other, rfl⟩
  rintro earlier _ ⟨given, rfl⟩ ⟨-, unreceived⟩ _ member ⟨previous, rfl⟩
  exact unreceived previous member

/-- What is received of a process is what it was settled with before, once and for all. -/
theorem received_of_lawful {history past later : History} {child : Nat}
    {outcome : Except ProcessError Termination} (lawful : history.IsLawful)
    (whole : history = past ++ .received child outcome :: later) :
    ∃ before report since, past = before ++ .settled child report :: since ∧
      (report = .reported outcome ∨ report = .dropped ∧ outcome = .error .abandoned) ∧
      ∀ other, .settled child other ∉ before ++ since ++ later := by
  obtain ⟨⟨report, settled, waited⟩, -⟩ := lawful past _ later whole
  obtain ⟨before, since, rfl⟩ := List.append_of_mem settled
  refine ⟨before, report, since, rfl, ?_, ?_⟩
  · cases report with
    | reported told => exact .inl (congrArg Report.reported waited.symm)
    | dropped => exact .inr ⟨rfl, waited⟩
  · intro other again
    have first : history = before ++ .settled child report ::
        (since ++ .received child outcome :: later) := by
      rw [whole]
      simp
    refine settled_once lawful first other ?_
    simp only [List.mem_append, List.mem_cons, reduceCtorEq, false_or] at again ⊢
    rcases again with (earlier | between) | afterwards
    · exact .inl earlier
    · exact .inr (.inl between)
    · exact .inr (.inr afterwards)

end CommandShell.Session
