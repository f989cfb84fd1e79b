import CommandShell.Proofs.Session.Account
import CommandShell.Proofs.Session.Phases

/-!
The log of a whole session: record by record it corresponds to what has happened.
-/

set_option autoImplicit false

namespace CommandShell

/-- Where one element stands in parts that have been put together. -/
theorem exists_split_of_flatMap {α β : Type} (parts : List α) (elements : α → List β)
    (front back : List β) (element : β) (whole : parts.flatMap elements = front ++ element :: back) :
    ∃ earlier part later within rest, parts = earlier ++ part :: later ∧
      elements part = within ++ element :: rest ∧ front = earlier.flatMap elements ++ within ∧
      back = rest ++ later.flatMap elements := by
  induction parts generalizing front with
  | nil => simp at whole
  | cons part parts ih =>
    rw [List.flatMap_cons] at whole
    have further (between : List β) (before : front = elements part ++ between)
        (others : parts.flatMap elements = between ++ element :: back) :
        ∃ earlier found later within rest, part :: parts = earlier ++ found :: later ∧
          elements found = within ++ element :: rest ∧ front = earlier.flatMap elements ++ within ∧
          back = rest ++ later.flatMap elements := by
      obtain ⟨earlier, found, later, within, rest, rfl, inside, rfl, rfl⟩ := ih between others
      refine ⟨part :: earlier, found, later, within, rest, rfl, inside, ?_, rfl⟩
      rw [before, List.flatMap_cons, List.append_assoc]
    rcases List.append_eq_append_iff.mp whole with ⟨between, before, others⟩ | ⟨between, here, others⟩
    · exact further between before others
    · cases between with
      | nil => exact further [] (by rw [here, List.append_nil, List.append_nil]) others.symm
      | cons first between =>
        obtain ⟨rfl, rfl⟩ := List.cons.inj others
        exact ⟨[], part, parts, front, between, rfl, here, rfl, rfl⟩

namespace Session

variable {ω σ : Type}

theorem obey_attempts (setting : Setting ω σ) (reading : Reading) (before : State ω σ) :
    (obey setting reading before).after.attempts =
      before.attempts + (obey setting reading before).trace.launches.length := by
  cases reading with
  | line line =>
    change (obeyLine setting line before).after.attempts =
      before.attempts + (obeyLine setting line before).trace.launches.length
    cases blank : (Command.parse line).isBlank with
    | true =>
      rw [obeyLine_of_blank _ _ _ blank]
      rfl
    | false =>
      have performed := performed_hosted (perform_cases setting (Command.parse line)
        (errandOf setting (Command.parse line) (State.dispatching before)) (State.dispatching before))
      rw [obeyLine_of_command _ _ _ blank]
      simp only [Trace.launches_append, opening, Trace.launches_ofNotes, resume_launches,
        List.append_nil]
      exact performed.attempts_eq
  | interrupted => rfl
  | failed cause => rfl
  | endOfInput =>
    obtain ⟨none_launched, counted⟩ := finish_launches setting before
    rw [obey_endOfInput, none_launched, counted]
    rfl

theorem turn_attempts (setting : Setting ω σ) (item : Item ω σ) (before : State ω σ) :
    (turn setting item before).after.attempts =
      before.attempts + (turn setting item before).trace.launches.length := by
  rcases emptied : setting.sink.flush before.sink with ⟨_ | reason, flushed⟩
  · rw [turn_of_done _ _ _ _ emptied]
    exact obey_attempts setting item.reading (arranged item before flushed)
  · rw [turn_of_failed _ _ _ _ _ emptied]
    rfl

/-- Attempts are counted through all turns. -/
theorem attempts_of_turns (setting : Setting ω σ) (items : List (Item ω σ)) (before : State ω σ)
    (earlier later : List (Turned ω σ)) (turned : Turned ω σ)
    (whole : turns setting items before = earlier ++ turned :: later) :
    turned.before.attempts = before.attempts +
      (Trace.launches (earlier.flatMap fun turned => turned.ran.trace)).length := by
  induction items generalizing before earlier with
  | nil =>
    cases earlier with
    | nil =>
      obtain ⟨rfl, -⟩ := List.cons.inj whole
      rfl
    | cons first earlier =>
      have none_left := (List.cons.inj whole).2
      simp at none_left
  | cons item rest ih =>
    rw [turns] at whole
    cases earlier with
    | nil =>
      obtain ⟨rfl, -⟩ := List.cons.inj whole
      rfl
    | cons first earlier =>
      obtain ⟨rfl, others⟩ := List.cons.inj whole
      split at others
      · have counted := ih _ earlier others
        rw [turn_attempts] at counted
        rw [counted, List.flatMap_cons, Trace.launches_append, List.length_append, Nat.add_assoc]
      · simp at others

/-- The turns of a run with what each reads and leaves in the journal. -/
theorem journaled_of_mem_turns (setting : Setting ω σ) (items : List (Item ω σ)) (before : State ω σ) :
    ∀ turned ∈ turns setting items before,
      Journaled setting turned (turned.lineRead? setting) turned.ran.trace.journal := by
  intro turned member
  exact turned_journal setting turned (ran_of_mem_turns setting items before turned member)

/-- The lines that are read in some turns, in order. -/
def linesRead (setting : Setting ω σ) (taken : List (Turned ω σ)) : List (LineRead ω σ) :=
  taken.filterMap (Turned.lineRead? setting)

/-- What turns have in the journal beside their prompts, they have there for the lines they read. -/
theorem journal_filterMap {α : Type} (tell : Event → Option α) (setting : Setting ω σ)
    (silent : tell (.prompt setting.prompt) = none) (taken : List (Turned ω σ))
    (journaled : ∀ turned ∈ taken,
      Journaled setting turned (turned.lineRead? setting) turned.ran.trace.journal) :
    (Trace.journal (taken.flatMap fun turned => turned.ran.trace)).filterMap tell =
      (linesRead setting taken).flatMap fun read => (accountOf setting read).filterMap tell := by
  induction taken with
  | nil => rfl
  | cons turned rest ih =>
    have others := ih fun other member => journaled other (List.mem_cons_of_mem turned member)
    have here := journaled turned List.mem_cons_self
    rw [List.flatMap_cons, Trace.journal_append, List.filterMap_append, others, linesRead, linesRead,
      List.filterMap_cons]
    generalize turned.lineRead? setting = read at here ⊢
    generalize turned.ran.trace.journal = journal at here ⊢
    cases here with
    | unprompted reason failed => rfl
    | other unread => simp [silent]
    | line text state read world attempts => simp [silent]

/-- Behind the turns that have been taken the next thing of account is a prompt, if there is any. -/
theorem journal_until_prompt (setting : Setting ω σ) (later : List (Turned ω σ))
    (journaled : ∀ turned ∈ later,
      Journaled setting turned (turned.lineRead? setting) turned.ran.trace.journal) :
    (Trace.journal (later.flatMap fun turned => turned.ran.trace)).takeWhile (!·.isPrompt) = [] := by
  induction later with
  | nil => rfl
  | cons turned rest ih =>
    have others := ih fun other member => journaled other (List.mem_cons_of_mem turned member)
    have here := journaled turned List.mem_cons_self
    rw [List.flatMap_cons, Trace.journal_append]
    generalize turned.lineRead? setting = read at here
    generalize turned.ran.trace.journal = journal at here ⊢
    cases here with
    | unprompted reason failed => exact others
    | other unread => rfl
    | line text state read world attempts => rfl

/-- A launch is in the account of the line that its turn has read. -/
theorem account_of_launch {setting : Setting ω σ} {turned : Turned ω σ}
    {read : Option (LineRead ω σ)} {within rest : List Event} {request : LaunchRequest}
    (journaled : Journaled setting turned read (within ++ .launch request :: rest)) :
    ∃ line front, within = .prompt setting.prompt :: front ∧
      accountOf setting line = front ++ .launch request :: rest ∧
      line.state.world = turned.item.world.getD turned.before.world ∧
      line.state.attempts = turned.before.attempts := by
  generalize whole : within ++ .launch request :: rest = journal at journaled
  cases journaled with
  | unprompted reason failed => simp at whole
  | other unread =>
    cases within with
    | nil => simp at whole
    | cons first within => simp at whole
  | line text state read world attempts =>
    cases within with
    | nil => simp at whole
    | cons first within =>
      obtain ⟨rfl, account⟩ := List.cons.inj whole
      exact ⟨⟨text, state⟩, within, rfl, account.symm, world, attempts⟩

theorem launches_front {setting : Setting ω σ} {read : LineRead ω σ} {front rest : List Event}
    {request : LaunchRequest} (account : accountOf setting read = front ++ .launch request :: rest) :
    front.filterMap Event.launched? = [] := by
  have launched := accountOf_launched setting read
  have few := executeLine_launches_cases setting read.text read.state
  rw [account, List.filterMap_append] at launched
  cases found : front.filterMap Event.launched? with
  | nil => rfl
  | cons first others =>
    have counted := congrArg List.length launched
    rw [found] at counted
    rcases few with none_launched | ⟨other, one⟩
    · simp [none_launched] at counted
    · simp [one, Event.launched?] at counted

/-- A moment of a run falls into one of its turns. All that has happened before it are the turns before
that one and the beginning of that one. -/
def FallsInto (taken : List (Turned ω σ)) (front : Trace) (moment : Moment) (turned : Turned ω σ) :
    Prop :=
  ∃ earlier later within rest, taken = earlier ++ turned :: later ∧
    turned.ran.trace = within ++ moment :: rest ∧
    front = (earlier.flatMap fun turned => turned.ran.trace) ++ within

/-- Up to the next prompt there is one record of what came of a launch, wherever in a run the launch is
made. -/
theorem fate_of_launch (setting : Setting ω σ) (items : List (Item ω σ)) (before : State ω σ)
    (front back : Trace) (phase : Phase) (request : LaunchRequest)
    (split : (run setting items before).trace = front ++ ⟨phase, .launch request⟩ :: back) :
    ∃ turned record,
      FallsInto (turns setting items before) front ⟨phase, .launch request⟩ turned ∧
        (Trace.log .debug (back.takeWhile (!·.event.isPrompt))).filter (·.isOn .fate) = [record] ∧
        Tells request.name
          (setting.host.launch (before.attempts + front.launches.length)
            (turned.item.world.getD turned.before.world) request).outcome record := by
  rw [(run_eq_turns setting items before).2.1] at split
  obtain ⟨earlier, turned, later, within, rest, taken, here, rfl, rfl⟩ :=
    exists_split_of_flatMap _ _ _ _ _ split
  have journaled := journaled_of_mem_turns setting items before
  rw [taken] at journaled
  have own := journaled turned List.mem_append_cons_self
  rw [here, Trace.journal_append] at own
  change Journaled setting turned (turned.lineRead? setting)
    (Trace.journal within ++ .launch request :: Trace.journal rest) at own
  obtain ⟨line, told, opened, account, world, attempts⟩ := account_of_launch own
  -- The launch is the first of its line, so all before it were made in earlier turns.
  have none_before : Trace.launches within = [] := by
    rw [Trace.launches_eq_journal, opened]
    change told.filterMap Event.launched? = []
    exact launches_front account
  have counted := attempts_of_turns setting items before earlier later turned taken
  -- What is left of the line asks for no prompt, and the turn after it does so first.
  have quiet : ∀ event ∈ Trace.journal rest, (!event.isPrompt) = true := by
    intro event member
    rw [accountOf_unprompted setting line event (by simp [account, member])]
    rfl
  have until_prompt := journal_until_prompt setting later fun other member =>
    journaled other (List.mem_append_right _ (List.mem_cons_of_mem turned member))
  refine ⟨turned, _, ⟨earlier, later, within, rest, taken, here, rfl⟩, ?_, tells_fateNote _ _⟩
  rw [Trace.log_isOn, Trace.journal_takeWhile, Trace.journal_append,
    List.takeWhile_append_of_pos quiet, until_prompt, List.append_nil,
    accountOf_split setting line told _ request account, world, attempts, counted,
    Trace.launches_append, none_before, List.append_nil]

/-- The line that a turn reads is what it finds at its prompt, if there is one. -/
theorem text_of_journaled {setting : Setting ω σ} {turned : Turned ω σ}
    {read : Option (LineRead ω σ)}
    (journaled : Journaled setting turned read turned.ran.trace.journal) :
    read.toList.map LineRead.text =
        ([turned.item.reading].take turned.ran.trace.prompts).filterMap Reading.text? ∧
      turned.ran.trace.prompts ≤ 1 ∧
      (turned.ran.result = .ok none → turned.ran.trace.prompts = 1) := by
  rw [Trace.prompts_eq_journal]
  generalize turned.ran.trace.journal = journal at journaled ⊢
  cases journaled with
  | unprompted reason failed => simp [failed]
  | other unread => simp [Event.isPrompt, unread]
  | line text state read world attempts =>
    have asked : (accountOf setting ⟨text, state⟩).countP Event.isPrompt = 0 := by
      rw [List.countP_eq_zero]
      intro event member
      rw [accountOf_unprompted setting _ event member]
      simp
    simp [Event.isPrompt, List.countP_cons, asked, read]

theorem linesRead_cons (setting : Setting ω σ) (turned : Turned ω σ) (rest : List (Turned ω σ)) :
    linesRead setting (turned :: rest) =
      (turned.lineRead? setting).toList ++ linesRead setting rest := by
  rw [linesRead, linesRead, List.filterMap_cons]
  cases turned.lineRead? setting <;> rfl

/-- The lines that a run reads are those of the readings it comes to. -/
theorem texts_read (setting : Setting ω σ) (items : List (Item ω σ)) (before : State ω σ) :
    (linesRead setting (turns setting items before)).map LineRead.text =
      (((items ++ [closing]).map Item.reading).take
        (run setting items before).trace.prompts).filterMap Reading.text? := by
  induction items generalizing before with
  | nil =>
    obtain ⟨result, ended, last⟩ := run_nil_ended setting before
    obtain ⟨text, -, -⟩ := text_of_journaled
      (turned_journal setting ⟨closing, before, turn setting closing before⟩ rfl)
    rw [last, turns, linesRead_cons, List.map_append, text]
    simp [linesRead]
  | cons item rest ih =>
    obtain ⟨text, few, once⟩ := text_of_journaled
      (turned_journal setting ⟨item, before, turn setting item before⟩ rfl)
    cases ended : verdict (turn setting item before).result with
    | none =>
      have next := (verdict_eq_none_iff _).mp ended
      rw [run_cons_of_goOn _ _ _ _ next, turns_cons_of_goOn _ _ _ _ next, linesRead_cons,
        List.map_append, ih, text]
      simp only [Trace.prompts_append, once next, Nat.add_comm 1, List.cons_append, List.map_cons,
        List.take_succ_cons, List.take_zero]
      exact (List.filterMap_append (l := [item.reading])).symm
    | some result =>
      have same := take_few few item.reading ((rest ++ [closing]).map Item.reading)
      rw [run_cons_of_ended _ _ _ _ _ ended, turns_cons_of_ended _ _ _ _ _ ended, linesRead_cons,
        List.map_append, text]
      refine (List.append_nil _).trans ?_
      exact congrArg (List.filterMap Reading.text?) same.symm

theorem log_isOn_run (setting : Setting ω σ) (items : List (Item ω σ)) (before : State ω σ)
    (topic : Topic) :
    ((run setting items before).trace.log .debug).filter (·.isOn topic) =
      (linesRead setting (turns setting items before)).flatMap fun read =>
        (accountOf setting read).filterMap (Event.recordOn? topic) := by
  rw [Trace.log_isOn, (run_eq_turns setting items before).2.1]
  exact journal_filterMap _ setting rfl _ (journaled_of_mem_turns setting items before)

theorem log_dispatch (setting : Setting ω σ) (items : List (Item ω σ)) (before : State ω σ) :
    ((run setting items before).trace.log .debug).filter (·.isOn .dispatch) =
      ((linesRead setting (turns setting items before)).filter fun line => !line.text.isBlank).map
        (LineRead.dispatchRecord setting) := by
  rw [log_isOn_run]
  simp only [accountOf_recordOn]
  induction linesRead setting (turns setting items before) with
  | nil => rfl
  | cons line rest ih =>
    rw [List.flatMap_cons, ih, List.filter_cons]
    cases line.text.isBlank <;> rfl

/-- There are as many records of what came of launches as there are launches. -/
theorem length_log_fate (setting : Setting ω σ) (items : List (Item ω σ)) (before : State ω σ) :
    (((run setting items before).trace.log .debug).filter (·.isOn .fate)).length =
      (run setting items before).trace.launches.length := by
  have launched := journal_filterMap Event.launched? setting rfl _
    (journaled_of_mem_turns setting items before)
  rw [← (run_eq_turns setting items before).2.1, ← Trace.launches_eq_journal] at launched
  simp only [log_isOn_run, launched, accountOf_recordOn, accountOf_launched, List.length_flatMap,
    List.length_map]

/-- While a program runs, or if its end is never reported, the log is what that of a run begins with. -/
theorem Reachable.log_prefix {setting : Setting ω σ} {items : List (Item ω σ)} {world : ω} {sink : σ}
    {system : System ω σ} (reached : Reachable setting (outset items world sink) system) :
    ∃ reports, system.history.Agrees reports ∧ ∀ level, Trace.log level system.history.moments <+:
      (run (setting.reporting reports) items (Session.start world sink)).trace.log level := by
  obtain ⟨reports, agrees⟩ := reached.agrees_some
  refine ⟨reports, agrees, ?_⟩
  intro level
  rw [reached.follows_run reports agrees, Trace.log_append]
  exact List.prefix_append _ _

/-- The log is a faithful account of a session, for every script, every host and every sink. When faults
are traced, each line that is read and not blank has one record that it is dispatched, in order, from
which its command word can be read, and what that stands for in the world it is read in. Behind each
launch, up to the next prompt or the end, there is one record of what the host has made of that attempt,
and there are no others. Each line that fails has one record of the error and the line. When only
warnings are asked for, there is nothing but the records of programs that were lost sight of. The program
shows these records at the level it is given, and before a session is over it has shown what they begin
with. -/
theorem run_logs_faithfully (setting : Setting ω σ) (items : List (Item ω σ)) (world : ω) (sink : σ) :
    let ran := run setting items (start world sink)
    let taken := turns setting items (start world sink)
    let read := linesRead setting taken
    let log := ran.trace.log .debug
    ran.trace = taken.flatMap (fun turned => turned.ran.trace) ∧
      read.map LineRead.text =
        (((items ++ [closing]).map Item.reading).take ran.trace.prompts).filterMap Reading.text? ∧
      log.filter (·.isOn .dispatch) =
        (read.filter fun line => !line.text.isBlank).map (LineRead.dispatchRecord setting) ∧
      (∀ line ∈ read, line.Dispatched setting (line.dispatchRecord setting)) ∧
      (∀ front phase request back, ran.trace = front ++ ⟨phase, .launch request⟩ :: back →
        ∃ turned record, FallsInto taken front ⟨phase, .launch request⟩ turned ∧
          (Trace.log .debug (back.takeWhile (!·.event.isPrompt))).filter (·.isOn .fate) = [record] ∧
          Accounted request.name
            (setting.host.launch front.launches.length
              (turned.item.world.getD turned.before.world) request).outcome record) ∧
      (log.filter (·.isOn .fate)).length = ran.trace.launches.length ∧
      log.filter (·.isOn .failure) =
        read.flatMap (fun line => (line.failure? setting).toList.map line.failureRecord) ∧
      ran.trace.log .warn = log.filter (·.message = "lost track of process".toList) ∧
      (∀ level, ((Terminal.diagnostics ran.trace).filter (Program.shows (.upTo level))).filterMap
        Diagnostic.record? = ran.trace.log level) ∧
      ∀ system, Reachable setting (outset items world sink) system →
        ∃ reports, system.history.Agrees reports ∧ ∀ level,
          Trace.log level system.history.moments <+:
            (run (setting.reporting reports) items (start world sink)).trace.log level := by
  intro ran taken read log
  refine ⟨(run_eq_turns setting items (start world sink)).2.1, texts_read setting items _,
    log_dispatch setting items _, fun line _ => line.dispatched setting, ?_,
    length_log_fate setting items _, ?_, Trace.log_warn ran.trace,
    fun level => Program.records_shown level ran.trace, fun system reached => reached.log_prefix⟩
  · intro front phase request back split
    obtain ⟨turned, record, falls, one, tells⟩ := fate_of_launch setting items _ front back phase
      request split
    have first : (start world sink).attempts + front.launches.length = front.launches.length :=
      Nat.zero_add _
    rw [first] at tells
    exact ⟨turned, record, falls, one, tells.accounted⟩
  · have failed := log_isOn_run setting items (start world sink) .failure
    simp only [accountOf_recordOn] at failed
    exact failed

/-- A setting in which the first program is lost sight of, the second ends with 3 and all others are
refused, and whose sink may fail. -/
def losing : Setting Surroundings Flaws :=
  ⟨.environment,
    .still fun attempts request =>
      if attempts = 0 then .ok ⟨some 7, .dropped⟩
      else if attempts = 1 then .ok ⟨some 8, .reported (.ok (.exited 3))⟩
      else .error (.notFound request.name),
    Flaws.sink, "$ ".toList⟩

/-- One executable file, in the only directory of the search path. -/
def around : Surroundings :=
  ⟨some (Utf8.encode "/b".toList),
    ⟨fun path => if path = Utf8.encode "/b/k".toList then some (.regular true) else none,
      fun _ => none⟩⟩

/-- What the log says of a line that is dispatched, word for word. -/
def saying (command resolution : String) : Record :=
  ⟨.debug, "marrow::shell::executor".toList, "dispatching".toList,
    [⟨"command".toList, command.toList⟩, ⟨"resolution".toList, resolution.toList⟩]⟩

/-- The first program is lost sight of, the second is not successful. The third is refused, and so is the
line that tells of it. -/
theorem run_logs_faithfully_losing :
    let items : List (Item Surroundings Flaws) :=
      [.plain (.line "/x".toList), .plain (.line "k".toList), .plain (.line "echo".toList),
        ⟨none, fun flaws => { flaws with failingWrites := 1 }, .line "/y z".toList⟩]
    let ran := run losing items (start around Flaws.none)
    let log := ran.trace.log .debug
    let answers (back : Trace) : List Record :=
      (Trace.log .debug (back.takeWhile (!·.event.isPrompt))).filter (·.isOn .fate)
    let lost : LaunchRequest := ⟨Utf8.encode "/x".toList, "/x".toList, []⟩
    let failing : LaunchRequest := ⟨Utf8.encode "/b/k".toList, "k".toList, []⟩
    log.filter (·.isOn .dispatch) =
        [saying "\"/x\"" "NotFound", saying "\"k\"" "Executable(\"/b/k\")",
          saying "\"echo\"" "Builtin(Echo)", saying "\"/y\"" "NotFound"] ∧
      (∀ line ∈ linesRead losing (turns losing items (start around Flaws.none)),
        line.Dispatched losing (line.dispatchRecord losing)) ∧
      (ran.trace = ran.trace.take 8 ++ ⟨.dispatching, .launch lost⟩ :: ran.trace.drop 9 ∧
        ∃ record, answers (ran.trace.drop 9) = [record] ∧
          record.message = "lost track of process".toList ∧ record.level = .warn) ∧
      (ran.trace = ran.trace.take 21 ++ ⟨.dispatching, .launch failing⟩ :: ran.trace.drop 22 ∧
        ∃ record, answers (ran.trace.drop 22) = [record] ∧
          record.message = "process finished unsuccessfully".toList ∧
          record.command? = some "k".toList ∧ record.termination? = some (.exited 3)) ∧
      (log.filter (·.isOn .fate)).length = 3 ∧
      log.filter (·.isOn .failure) =
        [⟨.debug, "marrow::shell".toList, "dispatch failed".toList,
          [⟨"error".toList, "IO error: pipe closed".toList⟩, ⟨"line".toList, "/y z".toList⟩]⟩] ∧
      (ran.trace.log .warn).length = 1 := by
  intro items ran log answers lost failing
  obtain ⟨-, -, dispatches, read, fates, counted, failures, warnings, -, -⟩ :=
    run_logs_faithfully losing items around Flaws.none
  refine ⟨dispatches.trans ?_, read, ⟨?_, ?_⟩, ⟨?_, ?_⟩, counted.trans ?_, failures.trans ?_,
    (congrArg List.length warnings).trans ?_⟩
  · decide +kernel
  · decide +kernel
  · obtain ⟨turned, record, -, one, accounted⟩ :=
      fates (ran.trace.take 8) .dispatching lost (ran.trace.drop 9) (by decide +kernel)
    have first : (Trace.launches (ran.trace.take 8)).length = 0 := by decide +kernel
    rw [first] at accounted
    have told := accounted.lost.mpr ⟨some 7, .inl rfl⟩
    exact ⟨record, one, told, accounted.warns.mpr told⟩
  · decide +kernel
  · obtain ⟨turned, record, -, one, accounted⟩ :=
      fates (ran.trace.take 21) .dispatching failing (ran.trace.drop 22) (by decide +kernel)
    have second : (Trace.launches (ran.trace.take 21)).length = 1 := by decide +kernel
    rw [second] at accounted
    have ended : Termination.exited 3 ≠ .exited 0 := by decide
    exact ⟨record, one, accounted.unsuccessful.mpr ⟨some 8, .exited 3, ended, rfl⟩,
      accounted.command, (accounted.termination _).mpr ⟨ended, some 8, rfl⟩⟩
  · decide +kernel
  · decide +kernel
  · decide +kernel

end Session

end CommandShell
