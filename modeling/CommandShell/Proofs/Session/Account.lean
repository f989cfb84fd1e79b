import CommandShell.Proofs.Records
import CommandShell.Proofs.Session.Blame
import CommandShell.Proofs.Session.Journal

/-!
The log of a session is an account of it: each line is told of once when it is dispatched and once if it
fails, and each attempt to start a program once when it is known what has become of it.
-/

set_option autoImplicit false

namespace CommandShell

variable {ω σ : Type}

def Reading.text? : Reading → Option Text
  | .line text => some text
  | _ => none

/-- A line that was read, and the state from which it is carried out. -/
structure LineRead (ω σ : Type) where
  text : Text
  state : State ω σ

namespace LineRead

def command (read : LineRead ω σ) : Command := .parse read.text

def resolution (setting : Setting ω σ) (read : LineRead ω σ) : Resolution :=
  setting.source.resolve (setting.host.look read.state.world) read.command.word

/-- The error that the line comes to, if it does. -/
def failure? (setting : Setting ω σ) (read : LineRead ω σ) : Option ShellError :=
  match (Session.executeLine setting read.text read.state).result with
  | .ok _ => none
  | .error error => some error

/-- What the log says of a line that asks for something. -/
def dispatchRecord (setting : Setting ω σ) (read : LineRead ω σ) : Record :=
  ⟨.debug, "marrow::shell::executor".toList, "dispatching".toList,
    [⟨"command".toList, Quoted.text read.command.word⟩,
      ⟨"resolution".toList, (read.resolution setting).display⟩]⟩

/-- A record from which it can be read that a line is dispatched, and as what. -/
structure Dispatched (setting : Setting ω σ) (read : LineRead ω σ) (record : Record) : Prop where
  message : record.message = "dispatching".toList
  command : record.command? = some read.command.word
  resolution : record.resolution? = some (read.resolution setting)

theorem dispatched (setting : Setting ω σ) (read : LineRead ω σ) :
    read.Dispatched setting (read.dispatchRecord setting) where
  message := rfl
  command := Record.command?_of_fields rfl
  resolution := Resolution.read_display _

/-- What the log says of a line that fails. -/
def failureRecord (read : LineRead ω σ) (error : ShellError) : Record :=
  ⟨.debug, "marrow::shell".toList, "dispatch failed".toList,
    [⟨"error".toList, error.message⟩, ⟨"line".toList, read.text⟩]⟩

end LineRead

/-- What the log says of an attempt to start a program, given what came of it. -/
inductive Tells (name : Text) : Except LaunchError RunningProcess → Record → Prop
  | refused (error : LaunchError) :
      Tells name (.error error)
        ⟨.debug, "marrow::shell::executor".toList, "launch failed".toList,
          [⟨"command".toList, Quoted.text name⟩, ⟨"error".toList, error.message⟩]⟩
  | finished (id : Option Nat) :
      Tells name (.ok ⟨id, .reported (.ok (.exited 0))⟩)
        ⟨.debug, "marrow::shell::executor".toList, "process finished".toList,
          [⟨"command".toList, Quoted.text name⟩]⟩
  | unsuccessful (id : Option Nat) (termination : Termination) (other : termination ≠ .exited 0) :
      Tells name (.ok ⟨id, .reported (.ok termination)⟩)
        ⟨.debug, "marrow::shell::executor".toList, "process finished unsuccessfully".toList,
          [⟨"command".toList, Quoted.text name⟩, ⟨"termination".toList, termination.display⟩]⟩
  | unawaited (id : Option Nat) (error : ProcessError) :
      Tells name (.ok ⟨id, .reported (.error error)⟩)
        ⟨.warn, "marrow::shell::executor".toList, "lost track of process".toList,
          [⟨"command".toList, Quoted.text name⟩, ⟨"error".toList, error.message⟩]⟩
  | unreported (id : Option Nat) :
      Tells name (.ok ⟨id, .dropped⟩)
        ⟨.warn, "marrow::shell::executor".toList, "lost track of process".toList,
          [⟨"command".toList, Quoted.text name⟩,
            ⟨"error".toList, "process completion was never reported".toList⟩]⟩

/-- The record of an attempt, what can be read from it, and what its message and its level stand for. -/
structure Accounted (name : Text) (answer : Except LaunchError RunningProcess) (record : Record) :
    Prop where
  tells : Tells name answer record
  command : record.command? = some name
  termination : ∀ termination, record.termination? = some termination ↔
    termination ≠ .exited 0 ∧ ∃ id, answer = .ok ⟨id, .reported (.ok termination)⟩
  refused : record.message = "launch failed".toList ↔ ∃ error, answer = .error error
  finished : record.message = "process finished".toList ↔
    ∃ id, answer = .ok ⟨id, .reported (.ok (.exited 0))⟩
  unsuccessful : record.message = "process finished unsuccessfully".toList ↔
    ∃ id termination, termination ≠ .exited 0 ∧ answer = .ok ⟨id, .reported (.ok termination)⟩
  lost : record.message = "lost track of process".toList ↔
    ∃ id, answer = .ok ⟨id, .dropped⟩ ∨ ∃ error, answer = .ok ⟨id, .reported (.error error)⟩
  warns : record.level = .warn ↔ record.message = "lost track of process".toList

theorem Tells.command {name : Text} {answer : Except LaunchError RunningProcess} {record : Record}
    (tells : Tells name answer record) : record.command? = some name := by
  cases tells <;> exact Record.command?_of_fields rfl

/-- Only the record of a program that was not successful tells how it ended. -/
theorem Tells.termination {name : Text} {answer : Except LaunchError RunningProcess} {record : Record}
    (tells : Tells name answer record) (termination : Termination) :
    record.termination? = some termination ↔
      termination ≠ .exited 0 ∧ ∃ id, answer = .ok ⟨id, .reported (.ok termination)⟩ := by
  cases tells with
  | unsuccessful id ended other =>
    have told : Termination.read ended.display = some termination ↔ ended = termination := by
      rw [Termination.read_display, Option.some.injEq]
    refine told.trans ⟨?_, ?_⟩
    · rintro rfl
      exact ⟨other, id, rfl⟩
    · rintro ⟨-, number, same⟩
      cases same
      rfl
  | finished id =>
    refine iff_of_false nofun ?_
    rintro ⟨other, number, same⟩
    cases same
    exact other rfl
  | _ =>
    refine iff_of_false nofun ?_
    rintro ⟨-, number, same⟩
    cases same

theorem Tells.accounted {name : Text} {answer : Except LaunchError RunningProcess} {record : Record}
    (tells : Tells name answer record) : Accounted name answer record := by
  refine ⟨tells, tells.command, tells.termination, ?_, ?_, ?_, ?_, ?_⟩
  all_goals cases tells with
    | unsuccessful id termination other => simp [other]
    | _ => simp

namespace Session

/-- The note on what came of an attempt to start a program. -/
def fateNote (name : Text) : Except LaunchError RunningProcess → Note
  | .error error => .launchFailed name error
  | .ok process => endNote name process.report.wait

theorem topic_fateNote (name : Text) (answer : Except LaunchError RunningProcess) :
    (fateNote name answer).topic? = some .fate := by
  rcases answer with error | ⟨id, report⟩
  · rfl
  · have tells := endNote_tellsFate name report.wait
    change (endNote name report.wait).topic? = some .fate
    generalize endNote name report.wait = note at tells ⊢
    cases note <;> simp [Note.tellsFate] at tells <;> rfl

theorem tells_fateNote (name : Text) (answer : Except LaunchError RunningProcess) :
    Tells name answer (fateNote name answer).record := by
  rcases answer with error | ⟨id, (error | termination) | _⟩
  · exact .refused error
  · exact .unawaited id error
  · by_cases success : termination = .exited 0
    · subst success
      exact .finished id
    · have other : termination.success = false := by simpa [Termination.success] using success
      have noted : fateNote name (.ok ⟨id, .reported (.ok termination)⟩) =
          .finishedUnsuccessfully name termination := by
        simp [fateNote, Report.wait, endNote, other]
      rw [noted]
      exact .unsuccessful id termination success
  · exact .unreported id

/-- What an attempt to start a program leaves in the journal. -/
def attempting (setting : Setting ω σ) (before : State ω σ) (request : LaunchRequest) : List Event :=
  [.launch request,
    .noted (fateNote request.name (setting.host.launch before.attempts before.world request).outcome)]

theorem opening_journal (setting : Setting ω σ) (command : Command) (before : State ω σ) :
    (opening setting command before).journal =
      [.noted (.dispatching command.word
        (setting.source.resolve (setting.host.look before.world) command.word))] := by
  have looked (name : Text) (resolution : Resolution) :
      (lookupNotes name resolution).filter (fun note => note.topic?.isSome) = [] := by
    cases resolution <;> rfl
  rw [opening, Trace.journal_ofNotes, openingNotes, List.filter_append, looked, List.nil_append]
  -- Only `type` and `exit` have more to note, and nothing of that counts.
  generalize setting.source.resolve (setting.host.look before.world) command.word = resolution
  rw [List.filter_cons_of_pos rfl, List.map_cons]
  refine congrArg (_ :: ·) (List.map_eq_nil_iff.mpr ?_)
  split
  · exact looked _ _
  · rfl
  · rfl

@[simp] theorem journal_launching (program : Path) (command : Command) (written : Written)
    (phase : Phase) :
    (launching program command written phase).journal =
      [.launch ⟨program, command.word, command.arguments⟩] := rfl

theorem journal_startNotes (phase : Phase) (program : Path) (process : RunningProcess) :
    (Trace.ofNotes phase (startNotes program process)).journal = [] := by
  rw [Trace.journal_ofNotes, startNotes]
  split <;> rfl

theorem journal_ending (phase : Phase) (name : Text) (process : RunningProcess) :
    ((Begun.waiting name process).ending phase).journal =
      [.noted (fateNote name (.ok process))] := by
  have told := topic_fateNote name (.ok process)
  change Trace.journal [⟨phase, .ended name⟩, ⟨phase, .noted (fateNote name (.ok process))⟩] = _
  simp [Event.counts, told]

/-- Where a program is launched for a line, all else that counts is what becomes of it. -/
theorem performed_journal {setting : Setting ω σ} {command : Command} {before : State ω σ}
    {errand : Errand} {ran : Ran ω σ ShellError Begun}
    (performed : Performed setting command before errand ran) :
    ran.trace.journal ++ (endingOf ran.after.phase ran.result).journal =
      ran.trace.launches.flatMap (attempting setting before) := by
  have answered {program : Path} {launched : Launched ω}
      (same : launchOf setting program command before = launched) :
      attempting setting before ⟨program, command.word, command.arguments⟩ =
        [.launch ⟨program, command.word, command.arguments⟩,
          .noted (fateNote command.word launched.outcome)] := by
    rw [← same]
    rfl
  cases performed with
  | refused program error written world flushed after done launched taken =>
    have one := answered launched
    change _ = attempting _ _ _ ++ []
    rw [one]
    rfl
  | refusedUnsaid program error written world flushed refusal after done launched refused =>
    have one := answered launched
    change _ = attempting _ _ _ ++ []
    rw [one]
    rfl
  | started program process written world flushed done launched =>
    have one := answered launched
    rw [Trace.launches_append, Trace.launches_ofNotes, List.append_nil, Trace.journal_append,
      journal_launching, journal_startNotes]
    change _ = attempting _ _ _ ++ []
    rw [one]
    exact congrArg (_ :: ·) (journal_ending before.phase command.word process)
  | said speaker message after taken => rfl
  | unsaid speaker message refusal after refused => rfl
  | left => rfl
  | unflushed program reason after failed => rfl

theorem executeLine_launches (setting : Setting ω σ) (line : Text) (before : State ω σ)
    (filled : (Command.parse line).isBlank = false) (ran : Ran ω σ ShellError Begun)
    (performed : perform setting (Command.parse line) (errandOf setting (Command.parse line) before)
      (State.dispatching before) = ran) :
    (executeLine setting line before).trace.launches = ran.trace.launches := by
  rw [executeLine_of_command setting line before filled _ performed]
  simp only [Trace.launches_append, opening, Trace.launches_ofNotes, endingOf_launches,
    List.append_nil]
  rfl

theorem executeLine_journal (setting : Setting ω σ) (line : Text) (before : State ω σ)
    (filled : (Command.parse line).isBlank = false) :
    (executeLine setting line before).trace.journal =
      .noted (.dispatching (Command.parse line).word
        (setting.source.resolve (setting.host.look before.world) (Command.parse line).word)) ::
        (executeLine setting line before).trace.launches.flatMap (attempting setting before) := by
  have performed := performed_journal (perform_cases setting (Command.parse line)
    (errandOf setting (Command.parse line) before) (State.dispatching before))
  have entered : (entering before.phase).journal = [] := rfl
  rw [executeLine_launches setting line before filled _ rfl,
    executeLine_of_command setting line before filled _ rfl]
  simp only [Trace.journal_append, entered, opening_journal, List.nil_append, List.append_assoc,
    performed]
  rfl

/-- No line launches more than one program. -/
theorem executeLine_launches_cases (setting : Setting ω σ) (line : Text) (before : State ω σ) :
    (executeLine setting line before).trace.launches = [] ∨
      ∃ request, (executeLine setting line before).trace.launches = [request] := by
  cases blank : (Command.parse line).isBlank with
  | true =>
    rw [executeLine_of_blank _ _ _ blank]
    exact .inl rfl
  | false =>
    obtain ⟨launched, -⟩ := performed_launches _ _ _ _ _ (perform_cases setting (Command.parse line)
      (errandOf setting (Command.parse line) before) (State.dispatching before))
    rw [executeLine_launches setting line before blank _ rfl]
    rcases launched with none_launched | ⟨program, -, one⟩
    · exact .inl none_launched
    · exact .inr ⟨_, one⟩

theorem conclude_journal (setting : Setting ω σ) (line : Text)
    (outcome : Except ShellError Outcome) (before : State ω σ) :
    (conclude setting line outcome before).trace.journal =
      match outcome with
      | .ok _ => []
      | .error error => [.noted (.dispatchFailed error line)] := by
  have concluded := conclude_cases setting line outcome before
  generalize conclude setting line outcome before = ran at concluded ⊢
  cases concluded <;> rfl

/-- What a line leaves in the journal: that it is dispatched, what is launched for it and what comes of
that, and that it fails. -/
def accountOf (setting : Setting ω σ) (read : LineRead ω σ) : List Event :=
  if read.text.isBlank then []
  else .noted (.dispatching read.command.word (read.resolution setting)) ::
    ((executeLine setting read.text read.state).trace.launches.flatMap
        (attempting setting read.state) ++
      (read.failure? setting).toList.map fun error => .noted (.dispatchFailed error read.text))

theorem obeyLine_journal (setting : Setting ω σ) (line : Text) (before : State ω σ) :
    (obeyLine setting line before).trace.journal = accountOf setting ⟨line, before⟩ := by
  rw [accountOf, ← Command.isBlank_parse]
  cases blank : (Command.parse line).isBlank with
  | true =>
    rw [obeyLine_of_blank _ _ _ blank]
    rfl
  | false =>
    rw [obeyLine_eq_conclude, Act.bind_apply, Act.attempt_apply]
    simp only [Trace.journal_append, executeLine_journal _ _ _ blank, conclude_journal,
      Bool.false_eq_true, ↓reduceIte, List.cons_append]
    refine congrArg (fun told => _ :: (_ ++ told)) ?_
    rw [LineRead.failure?]
    cases (executeLine setting line before).result <;> rfl

/-- The line that a turn reads, where it comes to reading and what it reads is a line. -/
def Turned.lineRead? (setting : Setting ω σ) (turned : Turned ω σ) : Option (LineRead ω σ) :=
  match setting.sink.flush turned.before.sink with
  | (none, flushed) =>
    turned.item.reading.text?.map (⟨·, arranged turned.item turned.before flushed⟩)
  | (some _, _) => none

theorem obey_journal (setting : Setting ω σ) (reading : Reading) (before : State ω σ) :
    (obey setting reading before).trace.journal =
      (reading.text?.map (LineRead.mk · before)).toList.flatMap (accountOf setting) := by
  cases reading with
  | line line =>
    change (obeyLine setting line before).trace.journal = accountOf setting ⟨line, before⟩ ++ []
    rw [obeyLine_journal, List.append_nil]
  | interrupted => rfl
  | failed cause => rfl
  | endOfInput =>
    rw [obey_endOfInput]
    have finished := finish_cases setting before
    generalize finish setting before = last at finished ⊢
    cases finished <;> rfl

/-- What a turn reads and leaves in the journal: nothing if it comes to no prompt, and else the prompt
and what the line it reads leaves there, in the world the turn has found. -/
inductive Journaled (setting : Setting ω σ) (turned : Turned ω σ) :
    Option (LineRead ω σ) → List Event → Prop
  | unprompted (reason : Text) (failed : turned.ran.result = .error (.io reason)) :
      Journaled setting turned none []
  | other (unread : turned.item.reading.text? = none) :
      Journaled setting turned none [.prompt setting.prompt]
  | line (text : Text) (state : State ω σ) (read : turned.item.reading.text? = some text)
      (world : state.world = turned.item.world.getD turned.before.world)
      (attempts : state.attempts = turned.before.attempts) :
      Journaled setting turned (some ⟨text, state⟩)
        (.prompt setting.prompt :: accountOf setting ⟨text, state⟩)

theorem turned_journal (setting : Setting ω σ) (turned : Turned ω σ)
    (same : turned.ran = turn setting turned.item turned.before) :
    Journaled setting turned (turned.lineRead? setting) turned.ran.trace.journal := by
  obtain ⟨item, before, ran⟩ := turned
  obtain rfl : ran = turn setting item before := same
  rcases emptied : setting.sink.flush before.sink with ⟨_ | reason, flushed⟩
  · have left : (turn setting item before).trace.journal =
        .prompt setting.prompt :: (item.reading.text?.map
          (LineRead.mk · (arranged item before flushed))).toList.flatMap (accountOf setting) := by
      rw [turn_of_done _ _ _ _ emptied, ← obey_journal]
      rfl
    simp only [Turned.lineRead?, emptied, left]
    cases read : item.reading.text? with
    | none => exact .other read
    | some text =>
      rw [Option.map_some, Option.toList_some, List.flatMap_singleton]
      exact .line text (arranged item before flushed) read rfl rfl
  · simp only [Turned.lineRead?, emptied]
    rw [turn_of_failed _ _ _ _ _ emptied]
    exact .unprompted reason rfl

theorem attempting_recordOn (topic : Topic) (setting : Setting ω σ) (before : State ω σ)
    (request : LaunchRequest) :
    (attempting setting before request).filterMap (Event.recordOn? topic) =
      if topic = .fate then
        [(fateNote request.name
          (setting.host.launch before.attempts before.world request).outcome).record]
      else [] := by
  have told := topic_fateNote request.name
    (setting.host.launch before.attempts before.world request).outcome
  cases topic <;> simp [attempting, List.filterMap_cons, Event.recordOn?, told]

/-- What the account of a line says on each topic. -/
theorem accountOf_recordOn (topic : Topic) (setting : Setting ω σ) (read : LineRead ω σ) :
    (accountOf setting read).filterMap (Event.recordOn? topic) =
      match topic with
      | .dispatch => if read.text.isBlank then [] else [read.dispatchRecord setting]
      | .fate => (executeLine setting read.text read.state).trace.launches.map fun request =>
          (fateNote request.name
            (setting.host.launch read.state.attempts read.state.world request).outcome).record
      | .failure => (read.failure? setting).toList.map read.failureRecord := by
  cases blank : read.text.isBlank with
  | true =>
    have done := executeLine_of_blank setting read.text read.state
      ((Command.isBlank_parse read.text).trans blank)
    have fine : read.failure? setting = none := by rw [LineRead.failure?, done]
    rw [accountOf, if_pos blank, fine, done]
    cases topic <;> rfl
  | false =>
    have dispatched : Event.recordOn? topic
        (.noted (.dispatching read.command.word (read.resolution setting))) =
          if topic = .dispatch then some (read.dispatchRecord setting) else none := by
      cases topic <;> rfl
    have failed (error : ShellError) : Event.recordOn? topic
        (.noted (.dispatchFailed error read.text)) =
          if topic = .failure then some (read.failureRecord error) else none := by
      cases topic <;> rfl
    rw [accountOf, if_neg (by simp [blank]), List.filterMap_cons, List.filterMap_append,
      List.filterMap_flatMap, List.filterMap_map, dispatched]
    simp only [attempting_recordOn, Function.comp_def, failed]
    cases topic with
    | dispatch => simp
    | fate => simp [List.map_eq_flatMap]
    | failure => simp

theorem accountOf_launched (setting : Setting ω σ) (read : LineRead ω σ) :
    (accountOf setting read).filterMap Event.launched? =
      (executeLine setting read.text read.state).trace.launches := by
  cases blank : read.text.isBlank with
  | true =>
    rw [accountOf, if_pos blank,
      executeLine_of_blank _ _ _ ((Command.isBlank_parse read.text).trans blank)]
    rfl
  | false =>
    rw [accountOf, if_neg (by simp [blank])]
    simp [List.filterMap_cons, List.filterMap_flatMap, attempting, Event.launched?,
      Function.comp_def]

theorem accountOf_unprompted (setting : Setting ω σ) (read : LineRead ω σ) :
    ∀ event ∈ accountOf setting read, event.isPrompt = false := by
  intro event member
  rw [accountOf] at member
  split at member
  · cases member
  · simp only [List.mem_cons, List.mem_append, List.mem_flatMap, attempting, List.mem_map,
      List.not_mem_nil, or_false] at member
    rcases member with rfl | ⟨request, -, rfl | rfl⟩ | ⟨error, -, rfl⟩ <;> rfl

/-- Behind a launch the account of a line tells what came of it, and of no other launch. -/
theorem accountOf_split (setting : Setting ω σ) (read : LineRead ω σ) (front back : List Event)
    (request : LaunchRequest) (split : accountOf setting read = front ++ .launch request :: back) :
    back.filterMap (Event.recordOn? .fate) =
      [(fateNote request.name
        (setting.host.launch read.state.attempts read.state.world request).outcome).record] := by
  have unlaunched : .launch request ∉ (read.failure? setting).toList.map fun error =>
      Event.noted (.dispatchFailed error read.text) := by
    simp
  have unfated : ((read.failure? setting).toList.map fun error =>
      Event.noted (.dispatchFailed error read.text)).filterMap (Event.recordOn? .fate) = [] := by
    simp [Event.recordOn?, Note.topic?]
  rw [accountOf] at split
  generalize (read.failure? setting).toList.map (fun error =>
    Event.noted (.dispatchFailed error read.text)) = failures at split unlaunched unfated
  by_cases blank : read.text.isBlank = true
  · rw [if_pos blank] at split
    simp at split
  · rw [if_neg blank] at split
    rcases executeLine_launches_cases setting read.text read.state with none_launched | ⟨other, one⟩
    · have member : .launch request ∈ front ++ .launch request :: back := List.mem_append_cons_self
      rw [← split, none_launched] at member
      simp [unlaunched] at member
    · rw [one, List.flatMap_singleton] at split
      simp only [attempting, List.cons_append, List.nil_append] at split
      rcases front with _ | ⟨first, _ | ⟨second, front⟩⟩
      · simp at split
      · simp only [List.cons_append, List.nil_append, List.cons.injEq, Event.launch.injEq] at split
        obtain ⟨-, rfl, rfl⟩ := split
        have told := topic_fateNote other.name
          (setting.host.launch read.state.attempts read.state.world other).outcome
        simp [Event.recordOn?, told, unfated]
      · simp only [List.cons_append, List.cons.injEq] at split
        have member : .launch request ∈ front ++ .launch request :: back := List.mem_append_cons_self
        rw [← split.2.2] at member
        simp [unlaunched] at member

end Session

end CommandShell
