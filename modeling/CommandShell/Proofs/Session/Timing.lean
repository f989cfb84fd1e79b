import CommandShell.Proofs.Session.Interleaving

/-!
When the end of a process is reported makes no difference: the loop goes its way as if each report had
been there from the launch on.
-/

set_option autoImplicit false

namespace CommandShell

variable {ω σ : Type}

/-- The same host, except that the ends of processes are reported as given. -/
def Host.reporting (host : Host ω) (reports : Nat → Report) : Host ω where
  look := host.look
  launch attempts world request :=
    let launched := host.launch attempts world request
    { launched with
      outcome := launched.outcome.map fun process => { process with report := reports attempts } }

def Setting.reporting (setting : Setting ω σ) (reports : Nat → Report) : Setting ω σ :=
  { setting with host := setting.host.reporting reports }

/-- The reports are those of a history, as far as it goes. -/
def History.Agrees (history : History) (reports : Nat → Report) : Prop :=
  ∀ child report, .settled child report ∈ history → reports child = report

/-- What the loop does settles nothing, nor does an occurrence just before. -/
theorem History.Agrees.append_ofTrace {history : History} {reports : Nat → Report}
    (agrees : history.Agrees reports) (front : History)
    (free : ∀ child report, .settled child report ∉ front) (child : Option Nat) (trace : Trace) :
    History.Agrees (history ++ (front ++ History.ofTrace child trace)) reports := by
  intro number report member
  rcases List.mem_append.mp member with earlier | now
  · exact agrees number report earlier
  · rcases List.mem_append.mp now with before | within
    · exact absurd before (free number report)
    · obtain ⟨moment, -, impossible⟩ := List.mem_map.mp within
      cases impossible

theorem History.Agrees.append_settled {history : History} {reports : Nat → Report}
    (agrees : history.Agrees reports) (child : Nat) :
    History.Agrees (history ++ [.settled child (reports child)]) reports := by
  intro number report member
  rcases List.mem_append.mp member with earlier | now
  · exact agrees number report earlier
  · cases List.mem_singleton.mp now
    rfl

namespace Session

def Begun.reporting (report : Report) : Begun → Begun
  | .done outcome => .done outcome
  | .waiting name process => .waiting name { process with report }

def Paused.reporting (report : Report) : Paused → Paused
  | .whole code => .whole code
  | .child line name process => .child line name { process with report }

theorem map_whole_reporting (result : Except ShellError (Option Nat)) (report : Report) :
    (result.map Paused.whole).map (Paused.reporting report) = result.map Paused.whole := by
  cases result <;> rfl

theorem speak_map_reporting (setting : Setting ω σ) (speaker : Speaker) (message : Text)
    (before : State ω σ) (report : Report) :
    (speak setting speaker message before).result.map (Begun.reporting report) =
      (speak setting speaker message before).result := by
  have told := speak_performed setting ⟨[], []⟩ speaker message before
  generalize speak setting speaker message before = ran at told ⊢
  cases told <;> rfl

theorem startExternal_reporting (setting : Setting ω σ) (reports : Nat → Report) (program : Path)
    (command : Command) (before : State ω σ) :
    let ran := startExternal setting program command before
    startExternal (setting.reporting reports) program command before =
      ⟨ran.result.map (Begun.reporting (reports before.attempts)), ran.after, ran.trace⟩ := by
  rcases emptied : setting.sink.flush before.sink with ⟨_ | reason, flushed⟩
  · have relaunched : launchOf (setting.reporting reports) program command before =
        let launched := launchOf setting program command before
        { launched with
          outcome := launched.outcome.map fun process =>
            { process with report := reports before.attempts } } := rfl
    rcases launched : launchOf setting program command before with ⟨error | process, written, world⟩
    · rw [launched] at relaunched
      rw [startExternal_of_refused _ _ _ _ _ _ _ _ emptied launched,
        startExternal_of_refused (setting.reporting reports) _ _ _ _ _ _ _ emptied relaunched]
      simp only [speak_map_reporting]
      rfl
    · rw [launched] at relaunched
      rw [startExternal_of_started _ _ _ _ _ _ _ _ emptied launched,
        startExternal_of_started (setting.reporting reports) _ _ _ _ _ _ _ emptied relaunched]
      rfl
  · rw [startExternal_of_unflushed _ _ _ _ _ _ emptied,
      startExternal_of_unflushed (setting.reporting reports) _ _ _ _ _ emptied]
    rfl

theorem perform_reporting (setting : Setting ω σ) (reports : Nat → Report) (command : Command)
    (errand : Errand) (before : State ω σ) :
    let ran := perform setting command errand before
    perform (setting.reporting reports) command errand before =
      ⟨ran.result.map (Begun.reporting (reports before.attempts)), ran.after, ran.trace⟩ := by
  cases errand with
  | say speaker message =>
    simp only [perform, speak_map_reporting]
    rfl
  | leave => rfl
  | start program => exact startExternal_reporting setting reports program command before

theorem suspend_reporting (setting : Setting ω σ) (reports : Nat → Report) (line : Text)
    (begun : Except ShellError Begun) (before : State ω σ) (report : Report) :
    let ran := suspend setting line begun before
    suspend (setting.reporting reports) line (begun.map (Begun.reporting report)) before =
      ⟨ran.result.map (Paused.reporting report), ran.after, ran.trace⟩ := by
  have concluded (begun : Except ShellError Begun) :
      atOnce (resume setting line begun) before =
        let ran := atOnce (resume setting line begun) before
        ⟨ran.result.map (Paused.reporting report), ran.after, ran.trace⟩ := by
    simp only [atOnce_apply, map_whole_reporting]
  rcases begun with error | outcome | ⟨name, process⟩
  · exact concluded (.error error)
  · exact concluded (.ok (.done outcome))
  · rfl

/-- A reading is obeyed alike as far as the first wait, whatever will be reported after it. -/
theorem obeyUntil_reporting (setting : Setting ω σ) (reports : Nat → Report) (reading : Reading)
    (before : State ω σ) :
    let ran := obeyUntil setting reading before
    obeyUntil (setting.reporting reports) reading before =
      ⟨ran.result.map (Paused.reporting (reports before.attempts)), ran.after, ran.trace⟩ := by
  cases reading with
  | line line =>
    cases blank : (Command.parse line).isBlank with
    | true =>
      rw [obeyUntil, obeyUntil, Act.bind_apply, Act.bind_apply, Act.attempt_apply, Act.attempt_apply,
        beginLine_of_blank _ _ _ blank, beginLine_of_blank _ _ _ blank]
      rfl
    | false =>
      rw [obeyUntil_of_command _ _ _ blank, obeyUntil_of_command _ _ _ blank]
      have same : errandOf (setting.reporting reports) (Command.parse line) (State.dispatching before) =
        errandOf setting (Command.parse line) (State.dispatching before) := rfl
      have counted : (State.dispatching before).attempts = before.attempts := rfl
      simp only [same, perform_reporting, suspend_reporting, counted]
      rfl
  | interrupted => rfl
  | failed cause => rfl
  | endOfInput =>
    have whole (setting : Setting ω σ) :
        obeyUntil setting .endOfInput = atOnce (obey setting .endOfInput) := rfl
    simp only [whole, atOnce_apply, map_whole_reporting]
    rfl

theorem hear_reporting (setting : Setting ω σ) (reports : Nat → Report) (item : Item ω σ)
    (before : State ω σ) :
    let ran := hear setting item before
    hear (setting.reporting reports) item before =
      ⟨ran.result.map (Paused.reporting (reports before.attempts)), ran.after, ran.trace⟩ := by
  rw [hear_apply, hear_apply]
  exact obeyUntil_reporting setting reports item.reading (changed item before)

/-- The rest of a session after a reading. -/
def goOn (setting : Setting ω σ) (items : List (Item ω σ)) : Option Nat → Act ω σ ShellError Nat
  | some code => return code
  | none => run setting items

/-- The rest of a session from the next reading on. -/
def listen (setting : Setting ω σ) (items : List (Item ω σ)) : Act ω σ ShellError Nat := do
  goOn setting items.tail (← proceed setting (← hear setting (upcoming items)))

theorem run_cons_eq (setting : Setting ω σ) (item : Item ω σ) (rest : List (Item ω σ)) :
    run setting (item :: rest) = turn setting item >>= goOn setting rest := by
  rw [run]
  congr 1

theorem listen_nil (setting : Setting ω σ) : listen setting [] = finish setting := by
  have closed : listen setting [] = (obeyUntil setting .endOfInput >>= proceed setting) >>=
      goOn setting [] := by
    rw [bind_assoc]
    rfl
  rw [closed, obeyUntil_proceed, obey, bind_assoc]
  simp only [pure_bind, goOn, bind_pure]

/-- The loop in its two halves: it asks, and it listens. -/
theorem run_eq_listen (setting : Setting ω σ) (items : List (Item ω σ)) :
    run setting items = awaitLine setting >>= fun _ => listen setting items := by
  cases items with
  | nil => rw [listen_nil, run]
  | cons item rest =>
    rw [run_cons_eq, turn, ← obeyUntil_proceed]
    simp only [bind_assoc]
    rfl

/-- What is left of a session, when reports are as given. -/
def remaining (setting : Setting ω σ) (reports : Nat → Report) :
    Position ω σ → Act ω σ ShellError Nat
  | .ready items => run (setting.reporting reports) items
  | .asked items => listen (setting.reporting reports) items
  | .started child line name process items => do
    goOn (setting.reporting reports) items
      (← resume setting line (.ok (.waiting name { process with report := reports child })))
  | .waiting child line name process items => do
    goOn (setting.reporting reports) items
      (← resume setting line (.ok (.waiting name { process with report := reports child })))
  | .ended result => fun before => ⟨result, before, []⟩

theorem remaining_prompted (setting : Setting ω σ) (reports : Nat → Report)
    (items : List (Item ω σ)) (session : State ω σ) :
    let ran := awaitLine setting session
    let rest := remaining setting reports (.prompted items ran.result) ran.after
    remaining setting reports (.ready items) session =
      ⟨rest.result, rest.after, ran.trace ++ rest.trace⟩ := by
  have same : awaitLine (setting.reporting reports) = awaitLine setting := rfl
  rw [remaining, run_eq_listen, same, Act.bind_apply]
  rcases awaitLine setting session with ⟨error | value, after, trace⟩
  · simp [Position.prompted, remaining]
  · rfl

theorem remaining_heard (setting : Setting ω σ) (reports : Nat → Report) (items : List (Item ω σ))
    (session : State ω σ) :
    let ran := hear setting (upcoming items) session
    let rest := remaining setting reports (.after items.tail session.attempts ran.result) ran.after
    remaining setting reports (.asked items) session =
      ⟨rest.result, rest.after, ran.trace ++ rest.trace⟩ := by
  rw [remaining, listen, Act.bind_apply, hear_reporting]
  rcases hear setting (upcoming items) session
    with ⟨error | (_ | code) | ⟨line, name, process⟩, after, trace⟩
  · simp [Position.after, remaining, Except.map]
  · rfl
  · rfl
  · rfl

theorem remaining_received (setting : Setting ω σ) (reports : Nat → Report) (child number : Nat)
    (line name : Text) (process : RunningProcess) (items : List (Item ω σ)) (session : State ω σ) :
    let ran :=
      resume setting line (.ok (.waiting name { process with report := reports child })) session
    let rest := remaining setting reports (.after items number (ran.result.map .whole)) ran.after
    remaining setting reports (.waiting child line name process items) session =
      ⟨rest.result, rest.after, ran.trace ++ rest.trace⟩ := by
  rw [remaining, Act.bind_apply]
  rcases resume setting line (.ok (.waiting name { process with report := reports child })) session
    with ⟨error | _ | code, after, trace⟩
  · simp [Position.after, remaining, Except.map]
  · rfl
  · rfl

/-- No step changes what the session as a whole comes to. -/
theorem Step.remaining_eq {setting : Setting ω σ} {script : List Reading} {before after : System ω σ}
    (step : Step setting before after) (sound : Sound script before) (reports : Nat → Report)
    (agrees : before.history.Agrees reports) :
    ∃ more, after.history.moments = before.history.moments ++ more ∧
      let rest := remaining setting reports after.position after.session
      remaining setting reports before.position before.session =
        ⟨rest.result, rest.after, more ++ rest.trace⟩ := by
  cases step with
  | ask items session channels history ran asks =>
    subst asks
    refine ⟨(awaitLine setting session).trace, ?_, remaining_prompted setting reports items session⟩
    rw [History.moments_append, History.moments_ofTrace]
  | hear items session channels history ran obeys =>
    subst obeys
    refine ⟨(Session.hear setting (upcoming items) session).trace, ?_,
      remaining_heard setting reports items session⟩
    rw [List.append_cons, History.moments_append, History.moments_append, History.moments_ofTrace]
    exact congrArg (· ++ _) (List.append_nil _)
  | await child line name process items session channels history =>
    refine ⟨[], ?_, rfl⟩
    rw [History.moments_append]
    rfl
  | settle position session front back child report history =>
    refine ⟨[], ?_, rfl⟩
    rw [History.moments_append]
    rfl
  | receive child line name process items session front back report history ran resumes =>
    subst resumes
    obtain ⟨-, settled⟩ := sound.settled_of_waiting
    rw [← agrees child report settled]
    refine ⟨_, ?_, remaining_received setting reports child child line name process items session⟩
    rw [List.append_cons, History.moments_append, History.moments_append, History.moments_ofTrace]
    exact congrArg (· ++ _) (List.append_nil _)

/-- Whatever the order of the steps, a session does what it does when each report is there from the
launch on, and comes to the same end. -/
theorem Reachable.follows_run {setting : Setting ω σ} {items : List (Item ω σ)} {world : ω} {sink : σ}
    {system : System ω σ} (reached : Reachable setting (outset items world sink) system)
    (reports : Nat → Report)
    (agrees : system.history.Agrees reports) :
    let rest := remaining setting reports system.position system.session
    run (setting.reporting reports) items (Session.start world sink) =
      ⟨rest.result, rest.after, system.history.moments ++ rest.trace⟩ := by
  -- A step takes moments from what remains to what has happened; together they stay the same.
  induction reached with
  | start => rfl
  | step before after earlier step ih =>
    obtain ⟨history, grown⟩ := step.history_grows
    have agreed : before.history.Agrees reports := by
      intro child report member
      apply agrees
      rw [grown]
      exact List.mem_append_left _ member
    obtain ⟨more, moments, same⟩ := step.remaining_eq earlier.sound reports agreed
    rw [ih agreed, same, moments]
    simp only [List.append_assoc]

/-- From one prompt the loop gets to the next, or to its end, whatever is reported. -/
theorem turn_reaches {setting : Setting ω σ} {first : System ω σ} {items : List (Item ω σ)}
    {session : State ω σ} {history : History} {reports : Nat → Report}
    (reached : Reachable setting first ⟨.ready items, session, [], history⟩)
    (agrees : history.Agrees reports) :
    ∃ system, Reachable setting first system ∧ system.history.Agrees reports ∧
      ((∃ result, system.position = .ended result) ∨
        items ≠ [] ∧ ∃ later past, system = ⟨.ready items.tail, later, [], past⟩) := by
  have asked := Reachable.step _ _ reached (.ask items session [] history _ rfl)
  have prompted := agrees.append_ofTrace [] (by simp) none (awaitLine setting session).trace
  generalize awaitLine setting session = prompt at asked prompted
  obtain ⟨error | value, shown, trace⟩ := prompt
  · exact ⟨_, asked, prompted, .inl ⟨.error error, rfl⟩⟩
  have heard := Reachable.step _ _ asked (.hear items shown [] _ _ rfl)
  have stopped := hear_stopped setting (upcoming items) shown
  have told := prompted.append_ofTrace [.read (upcoming items).reading] (by simp)
    (startedBy shown.attempts (hear setting (upcoming items) shown).result)
    (hear setting (upcoming items) shown).trace
  generalize hear setting (upcoming items) shown = ran at heard stopped told
  -- The loop is at its next prompt or at its end, unless a process has been started.
  have finished (system : System ω σ) (later : Reachable setting first system)
      (number : Nat) (result : Except ShellError (Option Nat)) (after : State ω σ) (past : History)
      (same : system = ⟨.after items.tail number (result.map .whole), after, [], past⟩)
      (more : result = .ok none → items ≠ []) (agreed : past.Agrees reports) :
      ∃ system, Reachable setting first system ∧ system.history.Agrees reports ∧
        ((∃ result, system.position = .ended result) ∨
          items ≠ [] ∧ ∃ later past, system = ⟨.ready items.tail, later, [], past⟩) := by
    subst same
    refine ⟨_, later, agreed, ?_⟩
    rcases result with error | _ | code
    · exact .inl ⟨.error error, rfl⟩
    · exact .inr ⟨more rfl, after, past, rfl⟩
    · exact .inl ⟨.ok code, rfl⟩
  cases stopped with
  | whole result after trace launched counted closed =>
    rw [startedBy_whole] at told
    refine finished _ heard shown.attempts result after _ (by simp [startedBy_whole]) ?_ told
    rintro goesOn rfl
    exact closed rfl goesOn
  | child line name process request phase after front back read serves first_launch quiet counted =>
    have settled := Reachable.step _ _ heard
      (.settle _ _ [] [] shown.attempts (reports shown.attempts) _)
    have waited := Reachable.step _ _ settled (.await shown.attempts line name process _ _ _ _)
    have received := Reachable.step _ _ waited
      (.receive shown.attempts line name process _ _ [] [] _ _ _ rfl)
    refine finished _ received shown.attempts _ _ _ rfl ?_ ?_
    · rintro - rfl
      cases read
    · rw [List.append_assoc]
      exact (told.append_settled shown.attempts).append_ofTrace
        [.awaited shown.attempts, .received shown.attempts _] (by simp) none _

theorem ready_reaches {setting : Setting ω σ} {first : System ω σ} {items : List (Item ω σ)}
    {session : State ω σ} {history : History} {reports : Nat → Report}
    (reached : Reachable setting first ⟨.ready items, session, [], history⟩)
    (agrees : history.Agrees reports) :
    ∃ system result, Reachable setting first system ∧ system.history.Agrees reports ∧
      system.position = .ended result := by
  induction items generalizing session history with
  | nil =>
    obtain ⟨system, later, agreed, ⟨result, ended⟩ | ⟨more, -⟩⟩ := turn_reaches reached agrees
    · exact ⟨system, result, later, agreed, ended⟩
    · exact absurd rfl more
  | cons item rest ih =>
    obtain ⟨system, later, agreed, ⟨result, ended⟩ | ⟨-, _, _, rfl⟩⟩ := turn_reaches reached agrees
    · exact ⟨system, result, later, agreed, ended⟩
    · exact ih later agreed

/-- Whatever is reported, the session that has each report from the launch on is one of those that come
about step by step. -/
theorem run_reachable (setting : Setting ω σ) (items : List (Item ω σ)) (world : ω) (sink : σ)
    (reports : Nat → Report) :
    let ran := run (setting.reporting reports) items (Session.start world sink)
    ∃ system, Reachable setting (outset items world sink) system ∧
      system.position = .ended ran.result ∧ system.session = ran.after ∧
      system.history.moments = ran.trace := by
  intro ran
  have begun : Reachable setting (outset items world sink)
      ⟨.ready items, Session.start world sink, [], []⟩ := .start
  have unsettled : History.Agrees [] reports := by simp [History.Agrees]
  obtain ⟨system, result, reached, agrees, ended⟩ := ready_reaches begun unsettled
  have followed : ran = _ := reached.follows_run reports agrees
  rw [ended] at followed
  rw [followed]
  exact ⟨system, reached, ended, rfl, (List.append_nil _).symm⟩

end Session

end CommandShell
