import CommandShell.Proofs.Session.Pause

/-!
All that was written is flushed before control leaves the shell: to the reader of lines, to a program, or
to whoever has run the session.
-/

set_option autoImplicit false

namespace CommandShell

/-- Control leaves the shell: to whoever gives the next line, or to a program. -/
def Event.leaves : Event → Bool
  | .prompt _ | .launch _ => true
  | _ => false

namespace Trace

/-- Whatever the sink has taken, a successful flush has come after it. -/
def AllFlushed (trace : Trace) : Prop :=
  ∀ front moment back, trace = front ++ moment :: back → moment.event.written ≠ [] →
    ∃ later ∈ back, later.event = .flushed

/-- Control leaves the shell directly behind a flush, and nowhere else. -/
def Guarded (trace : Trace) : Prop :=
  ∀ front moment back, trace = front ++ moment :: back → moment.event.leaves = true →
    ∃ rest phase, front = rest ++ [⟨phase, .flushed⟩]

theorem written_eq_nil_of_mem {trace : Trace} (silent : trace.output = []) {moment : Moment}
    (member : moment ∈ trace) : moment.event.written = [] :=
  List.flatMap_eq_nil_iff.mp silent moment member

/-- Behind a flush nothing is left to be flushed until something is written. -/
theorem allFlushed_of_flushed (front back : Trace) (phase : Phase) (silent : back.output = []) :
    AllFlushed (front ++ ⟨phase, .flushed⟩ :: back) := by
  intro first moment last split written
  -- The moment is behind the flush, is the flush itself, or is before it.
  rcases List.append_eq_append_iff.mp split with ⟨between, rfl, rest⟩ | ⟨between, rfl, rest⟩
  · cases between with
    | nil =>
      obtain ⟨rfl, -⟩ := List.cons.inj rest
      exact absurd rfl written
    | cons flush between =>
      obtain ⟨-, rfl⟩ := List.cons.inj rest
      exact absurd (written_eq_nil_of_mem silent (by simp)) written
  · cases between with
    | nil =>
      obtain ⟨rfl, -⟩ := List.cons.inj rest
      exact absurd rfl written
    | cons other between =>
      obtain ⟨-, rfl⟩ := List.cons.inj rest
      exact ⟨⟨phase, .flushed⟩, by simp, rfl⟩

theorem Guarded.allFlushed {trace : Trace} (guarded : Guarded trace) (front : Trace) (moment : Moment)
    (back : Trace) (split : trace = front ++ moment :: back) (leaves : moment.event.leaves = true) :
    AllFlushed front := by
  obtain ⟨rest, phase, rfl⟩ := guarded front moment back split leaves
  exact allFlushed_of_flushed rest [] phase rfl

/-- Where control does not leave the shell no flush is needed. -/
theorem guarded_of_stays {trace : Trace} (stays : ∀ moment ∈ trace, moment.event.leaves = false) :
    Guarded trace := by
  intro front moment back split leaves
  rw [stays moment (by simp [split])] at leaves
  cases leaves

theorem guarded_pair (phase : Phase) (moment : Moment) : Guarded [⟨phase, .flushed⟩, moment] := by
  intro front other back split leaves
  rcases front with _ | ⟨first, _ | ⟨second, rest⟩⟩
  · cases split
    cases leaves
  · cases split
    exact ⟨[], phase, rfl⟩
  · simp at split

theorem Guarded.append {first second : Trace} (before : Guarded first) (after : Guarded second) :
    Guarded (first ++ second) := by
  intro front moment back split leaves
  rcases List.append_eq_append_iff.mp split with ⟨between, rfl, rest⟩ | ⟨between, rfl, rest⟩
  · obtain ⟨others, phase, rfl⟩ := after between moment back rest leaves
    exact ⟨first ++ others, phase, by simp⟩
  · cases between with
    | nil =>
      obtain ⟨others, phase, none_there⟩ := after [] moment back rest.symm leaves
      simp at none_there
    | cons other between =>
      obtain ⟨rfl, -⟩ := List.cons.inj rest
      exact before front moment between rfl leaves

theorem guarded_flatMap {α : Type} (parts : List α) (trace : α → Trace)
    (each : ∀ part ∈ parts, Guarded (trace part)) : Guarded (parts.flatMap trace) := by
  induction parts with
  | nil => exact guarded_of_stays (by simp)
  | cons part rest ih =>
    exact (each part List.mem_cons_self).append
      (ih fun other member => each other (List.mem_cons_of_mem part member))

theorem guarded_ofNotes (phase : Phase) (notes : List Note) : Guarded (ofNotes phase notes) := by
  apply guarded_of_stays
  intro moment member
  obtain ⟨note, -, rfl⟩ := List.mem_map.mp member
  rfl

/-- Behind the last flush nothing has been written. -/
def EndsFlushed (trace : Trace) : Prop :=
  ∃ front phase back, trace = front ++ ⟨phase, .flushed⟩ :: back ∧ output back = []

theorem EndsFlushed.allFlushed {trace : Trace} (ends : EndsFlushed trace) : AllFlushed trace := by
  obtain ⟨front, phase, back, rfl, silent⟩ := ends
  exact allFlushed_of_flushed front back phase silent

theorem EndsFlushed.prepend {trace : Trace} (ends : EndsFlushed trace) (before : Trace) :
    EndsFlushed (before ++ trace) := by
  obtain ⟨front, phase, back, rfl, silent⟩ := ends
  exact ⟨before ++ front, phase, back, by simp, silent⟩

end Trace

namespace Session

variable {ω σ : Type}

open Trace

theorem launching_guarded (program : Path) (command : Command) (written : Written) (phase : Phase) :
    Guarded (launching program command written phase) := by
  have performed : Guarded [⟨phase, .performed written⟩] := guarded_of_stays (by simp [Event.leaves])
  exact (guarded_pair phase ⟨phase, .launch _⟩).append performed

theorem performed_guarded {setting : Setting ω σ} {command : Command} {before : State ω σ}
    {errand : Errand} {ran : Ran ω σ ShellError Begun}
    (performed : Performed setting command before errand ran) : Guarded ran.trace := by
  cases performed with
  | refused program error written world flushed after done launched taken =>
    exact (launching_guarded _ _ _ _).append (guarded_of_stays (by simp [Event.leaves]))
  | refusedUnsaid program error written world flushed refusal after done launched refused =>
    exact (launching_guarded _ _ _ _).append (guarded_of_stays (by simp [Event.leaves]))
  | started program process written world flushed done launched =>
    exact (launching_guarded _ _ _ _).append (guarded_ofNotes _ _)
  | _ => exact guarded_of_stays (by simp [Event.leaves])

theorem conclude_guarded (setting : Setting ω σ) (line : Text) (outcome : Except ShellError Outcome)
    (before : State ω σ) : Guarded (conclude setting line outcome before).trace := by
  have concluded := conclude_cases setting line outcome before
  generalize conclude setting line outcome before = ran at concluded ⊢
  cases concluded <;> exact guarded_of_stays (by simp [Event.leaves])

theorem resume_guarded (setting : Setting ω σ) (line : Text) (begun : Except ShellError Begun)
    (before : State ω σ) : Guarded (resume setting line begun before).trace := by
  cases begun with
  | error error => exact conclude_guarded setting line (.error error) before
  | ok begun =>
    rw [resume_ok]
    refine Guarded.append ?_ (conclude_guarded setting line _ before)
    cases begun <;> exact guarded_of_stays (by simp [Begun.ending, Event.leaves])

theorem finish_guarded (setting : Setting ω σ) (before : State ω σ) :
    Guarded (finish setting before).trace := by
  have finished := finish_cases setting before
  generalize finish setting before = ran at finished ⊢
  cases finished <;> exact guarded_of_stays (by simp [Event.leaves])

theorem obey_guarded (setting : Setting ω σ) (reading : Reading) (before : State ω σ) :
    Guarded (obey setting reading before).trace := by
  cases reading with
  | line line =>
    change Guarded (obeyLine setting line before).trace
    cases blank : (Command.parse line).isBlank with
    | true =>
      rw [obeyLine_of_blank _ _ _ blank]
      exact guarded_of_stays (by simp [Event.leaves])
    | false =>
      rw [obeyLine_of_command _ _ _ blank]
      have entered : Guarded (entering before.phase) := guarded_of_stays (by simp [entering, Event.leaves])
      have noted := guarded_ofNotes (State.dispatching before).phase
        (openingNotes setting.source (setting.host.look before.world) (Command.parse line))
      exact ((entered.append noted).append (performed_guarded (perform_cases _ _ _ _))).append
        (resume_guarded _ _ _ _)
  | interrupted => exact guarded_of_stays (by simp [obey])
  | failed cause => exact guarded_of_stays (by simp [obey, Event.leaves])
  | endOfInput =>
    rw [obey_endOfInput]
    exact finish_guarded setting before

/-- In a turn control leaves the shell behind a flush only. -/
theorem turn_guarded (setting : Setting ω σ) (item : Item ω σ) (before : State ω σ) :
    Guarded (turn setting item before).trace := by
  rcases emptied : setting.sink.flush before.sink with ⟨_ | reason, flushed⟩
  · rw [turn_of_done _ _ _ _ emptied]
    have rested : Guarded [resting before.phase] := guarded_of_stays (by simp [resting, Event.leaves])
    exact rested.append ((guarded_pair .idle ⟨.idle, .prompt setting.prompt⟩).append
      (obey_guarded setting item.reading (arranged item before flushed)))
  · rw [turn_of_failed _ _ _ _ _ emptied]
    exact guarded_of_stays (by simp [resting, Event.leaves])

/-- After this part of a session the loop goes on, or a failure of the sink has ended it, or all is
flushed. -/
def Closes (ran : Ran ω σ ShellError (Option Nat)) : Prop :=
  ran.result = .ok none ∨ (∃ reason, ran.result = .error (.io reason)) ∨ EndsFlushed ran.trace

theorem Closes.prepend {ran : Ran ω σ ShellError (Option Nat)} (closes : Closes ran) (front : Trace) :
    Closes ⟨ran.result, ran.after, front ++ ran.trace⟩ := by
  rcases closes with goesOn | failed | ends
  · exact .inl goesOn
  · exact .inr (.inl failed)
  · exact .inr (.inr (ends.prepend front))

theorem conclude_closes (setting : Setting ω σ) (line : Text) (outcome : Except ShellError Outcome)
    (before : State ω σ) : Closes (conclude setting line outcome before) := by
  have concluded := conclude_cases setting line outcome before
  generalize conclude setting line outcome before = ran at concluded ⊢
  cases concluded with
  | wentOn => exact .inl rfl
  | left code after done => exact .inr (.inr ⟨[], before.phase, _, rfl, rfl⟩)
  | unflushed code reason after failed => exact .inr (.inl ⟨reason, rfl⟩)
  | reported error after taken => exact .inl rfl
  | unreported error refusal after refused => exact .inr (.inl ⟨refusal.reason, rfl⟩)

theorem resume_closes (setting : Setting ω σ) (line : Text) (begun : Except ShellError Begun)
    (before : State ω σ) : Closes (resume setting line begun before) := by
  cases begun with
  | error error => exact conclude_closes setting line (.error error) before
  | ok begun =>
    rw [resume_ok]
    exact (conclude_closes setting line (.ok begun.outcome) before).prepend _

theorem obeyLine_closes (setting : Setting ω σ) (line : Text) (before : State ω σ) :
    Closes (obeyLine setting line before) := by
  cases blank : (Command.parse line).isBlank with
  | true =>
    rw [obeyLine_of_blank _ _ _ blank]
    exact .inl rfl
  | false =>
    rw [obeyLine_of_command _ _ _ blank]
    exact (resume_closes setting line _ _).prepend _

theorem obey_endOfInput_closes (setting : Setting ω σ) (before : State ω σ) :
    Closes (obey setting .endOfInput before) := by
  rw [obey_endOfInput]
  have finished := finish_cases setting before
  generalize finish setting before = ran at finished ⊢
  cases finished with
  | ended written after taken done =>
    exact .inr (.inr ⟨[⟨before.phase, .noted .endOfInput⟩, ⟨before.phase, .wrote (lineBytes [])⟩],
      before.phase, _, rfl, rfl⟩)
  | unwritten refusal after refused => exact .inr (.inl ⟨refusal.reason, rfl⟩)
  | unflushed written reason after taken failed => exact .inr (.inl ⟨reason, rfl⟩)

theorem turn_closes (setting : Setting ω σ) (item : Item ω σ) (before : State ω σ) :
    Closes (turn setting item before) := by
  rcases emptied : setting.sink.flush before.sink with ⟨_ | reason, flushed⟩
  · rw [turn_of_done _ _ _ _ emptied]
    cases item.reading with
    | line line => exact (obeyLine_closes setting line _).prepend [_, _, _]
    | interrupted => exact .inl rfl
    | failed cause => exact .inr (.inr ⟨[resting before.phase], .idle, _, rfl, rfl⟩)
    | endOfInput => exact (obey_endOfInput_closes setting _).prepend [_, _, _]
  · rw [turn_of_failed _ _ _ _ _ emptied]
    exact .inr (.inl ⟨reason, rfl⟩)

/-- A session that its sink does not end leaves nothing unflushed. -/
theorem run_closes (setting : Setting ω σ) (items : List (Item ω σ)) (before : State ω σ) :
    (∃ reason, (run setting items before).result = .error (.io reason)) ∨
      EndsFlushed (run setting items before).trace := by
  have last {item : Item ω σ} {before : State ω σ} {result : Except ShellError Nat}
      (ended : verdict (turn setting item before).result = some result) :
      (∃ reason, result = .error (.io reason)) ∨ EndsFlushed (turn setting item before).trace := by
    rcases turn_closes setting item before with goesOn | ⟨reason, failed⟩ | ends
    · rw [goesOn] at ended
      cases ended
    · rw [failed] at ended
      exact .inl ⟨reason, (Option.some.inj ended).symm⟩
    · exact .inr ends
  induction items generalizing before with
  | nil =>
    obtain ⟨result, ended, whole⟩ := run_nil_ended setting before
    rw [whole]
    exact last ended
  | cons item rest ih =>
    cases ended : verdict (turn setting item before).result with
    | none =>
      rw [run_cons_of_goOn _ _ _ _ ((verdict_eq_none_iff _).mp ended)]
      rcases ih (turn setting item before).after with failed | ends
      · exact .inl failed
      · exact .inr (ends.prepend _)
    | some result =>
      rw [run_cons_of_ended _ _ _ _ _ ended]
      exact last ended

theorem resume_flushes (setting : Setting ω σ) (line : Text) (begun : Except ShellError Begun)
    (before : State ω σ) (stays : ∀ code, begun ≠ .ok (.done (.exit code))) :
    ∀ moment ∈ (resume setting line begun before).trace, moment.event ≠ .flushFailed := by
  have concluded (outcome : Except ShellError Outcome) (stays : ∀ code, outcome ≠ .ok (.exit code)) :
      ∀ moment ∈ (conclude setting line outcome before).trace, moment.event ≠ .flushFailed := by
    have concluded := conclude_cases setting line outcome before
    generalize conclude setting line outcome before = ran at concluded ⊢
    cases concluded with
    | left code after done => exact absurd rfl (stays code)
    | unflushed code reason after failed => exact absurd rfl (stays code)
    | _ => simp
  cases begun with
  | error error => exact concluded (.error error) (by simp)
  | ok begun =>
    rw [resume_ok]
    intro moment member
    rcases List.mem_append.mp member with ending | later
    · cases begun <;> simp [Begun.ending] at ending
      rcases ending with rfl | rfl <;> simp
    · refine concluded (.ok begun.outcome) ?_ moment later
      intro code ends
      cases begun with
      | done outcome => exact stays code (by rw [← Except.ok.inj ends]; rfl)
      | waiting name process => cases ends

/-- Where a program is launched for a line, no flush fails in what the line comes to. -/
theorem performed_flushes {setting : Setting ω σ} {command : Command} {before : State ω σ}
    {errand : Errand} {ran : Ran ω σ ShellError Begun}
    (performed : Performed setting command before errand ran) (line : Text) :
    ran.trace.launches = [] ∨
      (∀ moment ∈ ran.trace, moment.event ≠ .flushFailed) ∧
        ∀ moment ∈ (resume setting line ran.result ran.after).trace, moment.event ≠ .flushFailed := by
  cases performed with
  | refused program error written world flushed after done launched taken =>
    exact .inr ⟨by simp [launching], resume_flushes _ _ _ _ (by simp)⟩
  | refusedUnsaid program error written world flushed refusal after done launched refused =>
    exact .inr ⟨by simp [launching], resume_flushes _ _ _ _ (by simp)⟩
  | started program process written world flushed done launched =>
    refine .inr ⟨?_, resume_flushes _ _ _ _ (by simp)⟩
    simp [launching, ofNotes]
  | _ => exact .inl rfl

theorem obeyLine_unflushed (setting : Setting ω σ) (line : Text) (before : State ω σ)
    (failed : ∃ moment ∈ (obeyLine setting line before).trace, moment.event = .flushFailed) :
    (obeyLine setting line before).trace.launches = [] := by
  cases blank : (Command.parse line).isBlank with
  | true =>
    rw [obeyLine_of_blank _ _ _ blank]
    rfl
  | false =>
    let ready := State.dispatching before
    have flushes := performed_flushes
      (perform_cases setting (Command.parse line) (errandOf setting (Command.parse line) ready) ready)
      line
    rw [obeyLine_of_command _ _ _ blank] at failed ⊢
    rcases flushes with none_launched | ⟨performed, resumed⟩
    · simp only [launches_append, opening, launches_ofNotes, resume_launches]
      rw [none_launched]
      rfl
    · obtain ⟨moment, member, unflushed⟩ := failed
      simp only [List.mem_append, opening] at member
      -- No note is a failed flush, and the launch has left none.
      rcases member with ((entered | noted) | within) | later
      · simp only [entering, List.mem_cons, List.not_mem_nil, or_false] at entered
        rcases entered with rfl | rfl <;> cases unflushed
      · obtain ⟨note, -, rfl⟩ := List.mem_map.mp noted
        cases unflushed
      · exact absurd unflushed (performed moment within)
      · exact absurd unflushed (resumed moment later)

/-- A turn in which a flush fails launches nothing. -/
theorem turn_unflushed (setting : Setting ω σ) (item : Item ω σ) (before : State ω σ)
    (failed : ∃ moment ∈ (turn setting item before).trace, moment.event = .flushFailed) :
    (turn setting item before).trace.launches = [] := by
  rcases emptied : setting.sink.flush before.sink with ⟨_ | reason, flushed⟩
  · rw [turn_of_done _ _ _ _ emptied] at failed ⊢
    have later : ∃ moment ∈ (obey setting item.reading (arranged item before flushed)).trace,
        moment.event = .flushFailed := by simpa [resting] using failed
    change (obey setting item.reading (arranged item before flushed)).trace.launches = []
    cases read : item.reading with
    | line line =>
      rw [read] at later
      exact obeyLine_unflushed setting line _ later
    | interrupted => rfl
    | failed cause => rfl
    | endOfInput =>
      rw [obey_endOfInput]
      exact (finish_launches setting _).1
  · rw [turn_of_failed _ _ _ _ _ emptied]
    rfl

/-- All that the sink has taken is flushed whenever control leaves the shell: when a line is asked for,
when a program is launched, and when the session is over, unless a failure of the sink itself has ended
it. A line whose flush fails launches nothing. -/
theorem run_flushes (setting : Setting ω σ) (items : List (Item ω σ)) (world : ω) (sink : σ) :
    let ran := run setting items (start world sink)
    (∀ front moment back, ran.trace = front ++ moment :: back → moment.event.leaves = true →
        AllFlushed front) ∧
      ((∃ code, ran.result = .ok code) ∨ (∃ cause, ran.result = .error (.input cause)) →
        AllFlushed ran.trace) ∧
      ∀ turned ∈ turns setting items (start world sink),
        (∃ moment ∈ turned.ran.trace, moment.event = .flushFailed) →
          turned.ran.trace.launches = [] := by
  intro ran
  obtain ⟨-, traced, -⟩ := run_eq_turns setting items (start world sink)
  have taken := ran_of_mem_turns setting items (start world sink)
  refine ⟨?_, ?_, ?_⟩
  · have guarded : Guarded ran.trace := by
      rw [traced]
      apply guarded_flatMap
      intro turned member
      rw [taken turned member]
      exact turn_guarded setting turned.item turned.before
    exact guarded.allFlushed
  · intro ended
    rcases run_closes setting items (start world sink) with ⟨reason, failed⟩ | ends
    · rcases ended with ⟨code, success⟩ | ⟨cause, unread⟩
      · cases success.symm.trans failed
      · cases unread.symm.trans failed
    · exact ends.allFlushed
  · intro turned member failed
    rw [taken turned member] at failed ⊢
    exact turn_unflushed setting turned.item turned.before failed

/-- A setting whose sink may fail. -/
def flawed : Setting Surroundings Flaws :=
  ⟨.environment, .still fun _ request => .error (.notFound request.name), Flaws.sink, "$ ".toList⟩

/-- The flush before a launch fails: nothing is launched, the failure is told of, and that is flushed
before the next line is asked for. -/
theorem run_flushes_flawed :
    let item : Item Surroundings Flaws :=
      ⟨none, fun flaws => { flaws with failingFlushes := 1 }, .line "/x".toList⟩
    let ran := run flawed [item] (start ⟨none, Files.none⟩ Flaws.none)
    let first := turn flawed item (start ⟨none, Files.none⟩ Flaws.none)
    (∃ moment ∈ first.trace, moment.event = .flushFailed) ∧ first.trace.launches = [] ∧
      ran.result = .ok 0 ∧ AllFlushed ran.trace ∧
      ran.trace.output = Utf8.encode "Error: IO error: pipe closed\n\n".toList := by
  intro item ran first
  obtain ⟨-, ends, fails⟩ := run_flushes flawed [item] ⟨none, Files.none⟩ Flaws.none
  have failed : ∃ moment ∈ first.trace, moment.event = .flushFailed := by decide +kernel
  have result : ran.result = .ok 0 := by rfl
  have member : ⟨item, start ⟨none, Files.none⟩ Flaws.none, first⟩ ∈
      turns flawed [item] (start ⟨none, Files.none⟩ Flaws.none) := List.mem_cons_self
  refine ⟨failed, fails _ member failed, result, ends (.inl ⟨0, result⟩), ?_⟩
  decide +kernel

end Session

end CommandShell
