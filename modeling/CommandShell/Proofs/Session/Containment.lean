import CommandShell.Proofs.Session.Course
import CommandShell.Proofs.Session.Phases

/-!
A sink that fails a line is told of in the next line and in no other way; one that fails the loop
itself ends the session.
-/

set_option autoImplicit false

namespace CommandShell

variable {ω σ : Type}

/-- The failures of a sink that end a session: before a prompt, at the end of the input, after
`exit`, and in the report of an error. -/
def Operation.fatal : List Operation :=
  [⟨.beforePrompt, .flushFailed⟩, ⟨.farewell, .writeFailed⟩, ⟨.farewell, .flushFailed⟩,
    ⟨.afterExit, .flushFailed⟩, ⟨.report, .writeFailed⟩]

theorem Operation.fails_of_fatal {operation : Operation} (ends : operation ∈ Operation.fatal) :
    operation.fails ∧ operation.use ≠ .line := by
  simp only [fatal, List.mem_cons, List.not_mem_nil, or_false] at ends
  rcases ends with rfl | rfl | rfl | rfl | rfl <;> simp [fails]

namespace Session

variable {setting : Setting ω σ} {item : Item ω σ} {before : State ω σ}
variable {result : Except ShellError (Option Nat)} {operations : List Operation} {after : σ}

theorem Fails.output_eq {command : Command} {errand : Errand} {failure : List Operation}
    {taken : Bytes} {error : ShellError}
    (fails : Fails setting command before errand failure taken error after) :
    failure.flatMap (·.event.written) = taken := by
  cases fails <;> simp [Event.written]

theorem Fails.use_eq {command : Command} {errand : Errand} {failure : List Operation}
    {taken : Bytes} {error : ShellError}
    (fails : Fails setting command before errand failure taken error after) :
    ∀ operation ∈ failure, operation.use = .line := by
  cases fails <;> simp

theorem Reported.output_eq {sink : Sink σ} {left : σ} {error : ShellError} {report : List Operation}
    {told : Bytes} (reported : Reported sink left error report told result after) :
    report.flatMap (·.event.written) = told := by
  cases reported <;> simp [Event.written]

theorem Reported.use_eq {sink : Sink σ} {left : σ} {error : ShellError} {report : List Operation}
    {told : Bytes} (reported : Reported sink left error report told result after) :
    ∀ operation ∈ report, operation.use = .report := by
  cases reported <;> simp

theorem operations_turn (setting : Setting ω σ) (item : Item ω σ) (before : State ω σ)
    (use : Use) :
    (turn setting item before).trace.operationsFrom use =
      (turn setting item before).trace.operations := by
  rcases emptied : setting.sink.flush before.sink with ⟨_ | reason, flushed⟩
  · rw [turn_of_done _ _ _ _ emptied]
    rfl
  · rw [turn_of_failed _ _ _ _ _ emptied]
    rfl

/-- What the sink does in a session, it does turn by turn. -/
theorem operations_run (setting : Setting ω σ) (items : List (Item ω σ)) (before : State ω σ) :
    (run setting items before).trace.operations =
      (turns setting items before).flatMap (fun turned => turned.ran.trace.operations) := by
  -- Each turn begins with a note, so what the sink was used for before makes no difference.
  have alike : ∀ (taken : List (Turned ω σ)) (use : Use),
      (∀ turned ∈ taken, turned.ran = turn setting turned.item turned.before) →
      Trace.operationsFrom use (taken.flatMap (fun turned => turned.ran.trace)) =
        taken.flatMap (fun turned => turned.ran.trace.operations) := by
    intro taken
    induction taken with
    | nil => exact fun _ _ => rfl
    | cons turned rest ih =>
      intro use ran
      have here : turned.ran.trace.operationsFrom use = turned.ran.trace.operations := by
        rw [ran turned List.mem_cons_self]
        exact operations_turn _ _ _ use
      have others := ih (turned.ran.trace.useAfter use) (fun other member =>
        ran other (List.mem_cons_of_mem _ member))
      rw [List.flatMap_cons, List.flatMap_cons, Trace.operationsFrom_append, here, others]
  rw [(run_eq_turns setting items before).2.1]
  exact alike _ .line (ran_of_mem_turns setting items before)

/-- A turn whose line the sink has failed. Of the line's message there is what the sink took of it, and
after it what the sink took of the one line that tells of the failure, which it was handed in the state
the failure has left it in. The loop goes on to the next prompt if that line is taken. -/
structure Contained (setting : Setting ω σ) (turned : Turned ω σ) (later : List (Turned ω σ))
    (text : Text) (flushed between : σ) (error : ShellError) (failure report : List Operation)
    (taken told : Bytes) : Prop where
  reading : turned.item.reading = .line text
  prompted : setting.sink.flush turned.before.sink = (none, flushed)
  fails : Fails setting (Command.parse text) (arranged turned.item turned.before flushed)
    (.of setting.source (setting.host.look (turned.item.world.getD turned.before.world))
      (Command.parse text)) failure taken error between
  reported : Reported setting.sink between error report told turned.ran.result turned.ran.after.sink
  operations : turned.ran.trace.operations = ⟨.beforePrompt, .flushed⟩ :: (failure ++ report)
  output : turned.ran.trace.output = taken ++ told
  goesOn : turned.ran.result = .ok none → ∃ next others event, later = next :: others ∧
    next.before = turned.ran.after ∧
    next.ran.trace.operations.head? = some ⟨.beforePrompt, event⟩
  ends : turned.ran.result ≠ .ok none → later = []

theorem Contained.told_eq {turned : Turned ω σ} {later : List (Turned ω σ)} {text : Text}
    {flushed between : σ} {error : ShellError} {failure report : List Operation} {taken told : Bytes}
    (contained :
      Contained setting turned later text flushed between error failure report taken told) :
    told = (turned.ran.trace.operations.filter (·.use = .report)).flatMap (·.event.written) := by
  have none_before : failure.filter (·.use = .report) = [] := by
    rw [List.filter_eq_nil_iff]
    intro operation member
    simp [contained.fails.use_eq operation member]
  have all_after : report.filter (·.use = .report) = report := by
    rw [List.filter_eq_self]
    intro operation member
    simp [contained.reported.use_eq operation member]
  rw [contained.operations, List.filter_cons_of_neg (by decide), List.filter_append, none_before,
    all_after, List.nil_append, contained.reported.output_eq]

/-- A turn ends with an error of the sink where the sink fails the session as such. -/
theorem io_iff_of_course (course : Course setting item before result operations after) :
    (∃ reason, result = .error (.io reason)) ↔
      ∃ operation ∈ operations, operation ∈ Operation.fatal := by
  cases course with
  | unprompted reason => simp [Operation.fatal]
  | prompted flushed _ others _ done answered =>
    generalize item.reading = reading at answered
    cases answered with
    | done text _ _ filled served =>
      simp only [reduceCtorEq, exists_false, false_iff]
      rintro ⟨operation, member, ends⟩
      obtain ⟨failed, other⟩ := Operation.fails_of_fatal ends
      rcases List.mem_cons.mp member with rfl | within
      · simp [Operation.fails] at failed
      · exact other (served.fine operation within).1
    | failed text error failure report taken told _ between _ filled fails reported =>
      have within := fails.use_eq
      cases reported with
      | whole =>
        simp only [reduceCtorEq, exists_false, false_iff]
        rintro ⟨operation, member, ends⟩
        obtain ⟨failed, other⟩ := Operation.fails_of_fatal ends
        simp only [List.mem_cons, List.mem_append, List.not_mem_nil, or_false] at member
        rcases member with rfl | line | rfl
        · simp [Operation.fails] at failed
        · exact other (within operation line)
        · simp [Operation.fails] at failed
      | cut refusal =>
        refine ⟨fun _ => ⟨⟨.report, .writeFailed⟩, ?_, by decide⟩, fun _ => ⟨refusal.reason, rfl⟩⟩
        simp
    | _ => simp [Operation.fatal]

/-- The endings of a turn: the loop goes on, or ends with success, or nothing can be read, or the sink
has failed. -/
theorem result_of_course (course : Course setting item before result operations after) :
    result = .ok none ∨ result = .ok (some 0) ∨ (∃ reason, result = .error (.io reason)) ∨
      ∃ cause, result = .error (.input cause) := by
  cases course with
  | unprompted reason => simp
  | prompted flushed _ others _ done answered =>
    generalize item.reading = reading at answered
    cases answered with
    | failed text error failure report taken told _ between _ filled fails reported =>
      cases reported <;> simp
    | _ => simp

theorem head_of_course (course : Course setting item before result operations after) :
    ∃ event, operations.head? = some ⟨.beforePrompt, event⟩ := by
  cases course with
  | unprompted reason => exact ⟨.flushFailed, rfl⟩
  | prompted flushed _ others _ done answered => exact ⟨.flushed, rfl⟩

/-- Where the sink fails in any other way it has failed a line, and no other course is left. -/
theorem failed_of_course (course : Course setting item before result operations after)
    (failure : ∃ operation ∈ operations, operation.fails ∧ operation ∉ Operation.fatal) :
    ∃ text flushed between error failure report taken told,
      item.reading = .line text ∧ setting.sink.flush before.sink = (none, flushed) ∧
        Fails setting (Command.parse text) (arranged item before flushed)
          (errandOf setting (Command.parse text) (arranged item before flushed)) failure taken error
          between ∧
        Reported setting.sink between error report told result after ∧
        operations = ⟨.beforePrompt, .flushed⟩ :: (failure ++ report) := by
  obtain ⟨operation, member, failed, bearable⟩ := failure
  cases course with
  | unprompted reason =>
    rw [List.mem_singleton] at member
    subst member
    exact absurd (by decide) bearable
  | prompted flushed _ others _ done answered =>
    have within : operation ∈ others := by
      rcases List.mem_cons.mp member with rfl | within
      · simp [Operation.fails] at failed
      · exact within
    generalize read : item.reading = reading at answered
    cases answered with
    | done text _ _ filled served => exact absurd failed (served.fine operation within).2
    | failed text error failure report taken told _ between _ filled fails reported =>
      exact ⟨text, flushed, between, error, failure, report, taken, told, rfl, done, fails, reported,
        rfl⟩
    | interrupted => cases within
    | blank text => cases within
    | unread cause => cases within
    | left text =>
      rw [List.mem_singleton] at within
      subst within
      simp [Operation.fails] at failed
    | unleft text reason =>
      rw [List.mem_singleton] at within
      subst within
      exact absurd (by decide) bearable
    | ended =>
      simp only [List.mem_cons, List.not_mem_nil, or_false] at within
      rcases within with rfl | rfl <;> simp [Operation.fails] at failed
    | unwritten taken reason =>
      simp only [List.mem_cons, List.not_mem_nil, or_false] at within
      rcases within with rfl | rfl
      · simp [Operation.fails] at failed
      · exact absurd (by decide) bearable
    | unflushed reason =>
      simp only [List.mem_cons, List.not_mem_nil, or_false] at within
      rcases within with rfl | rfl
      · simp [Operation.fails] at failed
      · exact absurd (by decide) bearable

theorem course_of_mem_turns (setting : Setting ω σ) (items : List (Item ω σ)) (before : State ω σ) :
    ∀ turned ∈ turns setting items before,
      Course setting turned.item turned.before turned.ran.result turned.ran.trace.operations
        turned.ran.after.sink := by
  intro turned member
  rw [ran_of_mem_turns setting items before turned member]
  exact turn_course setting turned.item turned.before

theorem turn_contained (setting : Setting ω σ) (items : List (Item ω σ)) (before : State ω σ)
    (front later : List (Turned ω σ)) (turned : Turned ω σ)
    (whole : turns setting items before = front ++ turned :: later)
    (failure : ∃ operation ∈ turned.ran.trace.operations,
      operation.fails ∧ operation ∉ Operation.fatal) :
    ∃ text flushed between error failure report taken told,
      Contained setting turned later text flushed between error failure report taken told := by
  have courses := course_of_mem_turns setting items before
  rw [whole] at courses
  obtain ⟨text, flushed, between, error, failure, report, taken, told, read, done, fails, reported,
    listed⟩ := failed_of_course (courses turned List.mem_append_cons_self) failure
  obtain ⟨next, last⟩ := turns_next setting items before front later turned whole
  refine ⟨text, flushed, between, error, failure, report, taken, told, read, done, fails, reported,
    listed, ?_, ?_, last⟩
  · rw [Trace.output_eq_operations .line]
    change turned.ran.trace.operations.flatMap _ = _
    rw [listed, List.flatMap_cons, List.flatMap_append, fails.output_eq, reported.output_eq]
    rfl
  · intro goesOn
    obtain ⟨following, others, rfl, continued⟩ := next goesOn
    obtain ⟨event, first⟩ := head_of_course (courses following (by simp))
    exact ⟨following, others, event, rfl, continued, first⟩

/-- Over every script, host and sink, a session ends with an error of the sink exactly where the sink
fails before a prompt, at the end of the input, after `exit`, or in the report of an error. It ends with
an error of its input exactly where that is what was read, and else with success. It takes its turns one
after another, each with the sink as the one before has left it, and in each the sink is handed what its
`Course` says and answers as it does there. A sink that fails elsewhere has failed a line, and the turn of
that line is as `Contained` says. -/
theorem run_contains_failures (setting : Setting ω σ) (items : List (Item ω σ)) (world : ω)
    (sink : σ) :
    let ran := run setting items (start world sink)
    let readings := ((items ++ [closing]).map Item.reading).take ran.trace.prompts
    let taken := turns setting items (start world sink)
    ((∃ reason, ran.result = .error (.io reason)) ↔
        ∃ operation ∈ ran.trace.operations, operation ∈ Operation.fatal) ∧
      (∀ cause, ran.result = .error (.input cause) ↔ .failed cause ∈ readings) ∧
      (ran.result = .ok 0 ∨ (∃ reason, ran.result = .error (.io reason)) ∨
        ∃ cause, ran.result = .error (.input cause)) ∧
      taken.map Turned.item <+: items ++ [closing] ∧
      ran.trace = taken.flatMap (fun turned => turned.ran.trace) ∧
      ran.trace.operations = taken.flatMap (fun turned => turned.ran.trace.operations) ∧
      taken.head?.map Turned.before = some (start world sink) ∧
      (∀ result, ran.result = result ↔
        ∃ turned ∈ taken, verdict turned.ran.result = some result) ∧
      ∀ front turned later, taken = front ++ turned :: later →
        Course setting turned.item turned.before turned.ran.result turned.ran.trace.operations
          turned.ran.after.sink ∧
        (turned.ran.result = .ok none →
          ∃ next others, later = next :: others ∧ next.before = turned.ran.after) ∧
        (turned.ran.result ≠ .ok none → later = []) ∧
        ((∃ operation ∈ turned.ran.trace.operations,
            operation.fails ∧ operation ∉ Operation.fatal) →
          ∃ text flushed between error failure report accepted told,
            Contained setting turned later text flushed between error failure report accepted
              told) := by
  intro ran readings taken
  have phased : Phased .idle ran.trace ran.after.phase ran.trace.prompts readings (some ran.result) :=
    run_phased setting items (start world sink) (Phase.idle_mem_next (by simp [start]))
  obtain ⟨listed, traced, verdicts⟩ := run_eq_turns setting items (start world sink)
  have operated := operations_run setting items (start world sink)
  have courses := course_of_mem_turns setting items (start world sink)
  refine ⟨?_, ?_, ?_, listed, traced, operated, ?_, verdicts, ?_⟩
  · rw [operated]
    constructor
    · rintro ⟨reason, failed⟩
      obtain ⟨turned, member, ended⟩ := (verdicts _).mp failed
      obtain ⟨operation, within, outside⟩ := (io_iff_of_course (courses turned member)).mp
        ⟨reason, (verdict_eq_error_iff _ _).mp ended⟩
      exact ⟨operation, List.mem_flatMap.mpr ⟨turned, member, within⟩, outside⟩
    · rintro ⟨operation, somewhere, outside⟩
      obtain ⟨turned, member, within⟩ := List.mem_flatMap.mp somewhere
      obtain ⟨reason, failed⟩ := (io_iff_of_course (courses turned member)).mpr
        ⟨operation, within, outside⟩
      exact ⟨reason, (verdicts _).mpr ⟨turned, member, (verdict_eq_error_iff _ _).mpr failed⟩⟩
  · intro cause
    rw [← phased.unread cause, Option.some.injEq]
  · obtain ⟨turned, member, ended⟩ := (verdicts ran.result).mp rfl
    rcases result_of_course (courses turned member) with
      goesOn | left | ⟨reason, io⟩ | ⟨cause, input⟩
    · rw [goesOn] at ended
      cases ended
    · rw [left] at ended
      exact .inl (Option.some.inj ended).symm
    · rw [io] at ended
      exact .inr (.inl ⟨reason, (Option.some.inj ended).symm⟩)
    · rw [input] at ended
      exact .inr (.inr ⟨cause, (Option.some.inj ended).symm⟩)
  · obtain ⟨item, rest, begun⟩ := turns_eq_cons setting items (start world sink)
    exact congrArg (fun turned => turned.head?.map Turned.before) begun
  · intro front turned later whole
    have member : turned ∈ taken := by
      rw [whole]
      exact List.mem_append_cons_self
    obtain ⟨next, last⟩ := turns_next setting items (start world sink) front later turned whole
    exact ⟨courses turned member, next, last,
      turn_contained setting items (start world sink) front later turned whole⟩

/-- A setting in which no program can be started, and whose sink may fail. -/
def brittle : Setting Surroundings Flaws :=
  ⟨.environment, .still fun _ request => .error (.notFound request.name), Flaws.sink, "$ ".toList⟩

/-- The first line is refused and told of in whole; of what tells of the second, five bytes are taken. -/
theorem run_contains_failures_brittle :
    let echo : Item Surroundings Flaws :=
      ⟨none, fun flaws => { flaws with failingWrites := 1 }, .line "echo a".toList⟩
    let other : Item Surroundings Flaws := ⟨none, fun _ => ⟨1, 0, some 5⟩, .line "b".toList⟩
    let ran := run brittle [echo, other] (start ⟨none, Files.none⟩ Flaws.none)
    let taken := turns brittle [echo, other] (start ⟨none, Files.none⟩ Flaws.none)
    (∃ reason, ran.result = .error (.io reason)) ∧
      ∃ first second, taken = [first, second] ∧
        (∃ text flushed between error failure report accepted told,
          Contained brittle first [second] text flushed between error failure report accepted told ∧
            told = Utf8.encode "Error: failed to write output: pipe closed\n".toList) ∧
        ∃ text flushed between error failure report accepted told,
          Contained brittle second [] text flushed between error failure report accepted told ∧
            told = Utf8.encode "Error".toList := by
  intro echo other ran taken
  let begun := start (ω := Surroundings) ⟨none, Files.none⟩ Flaws.none
  let first := turn brittle echo begun
  let second := turn brittle other first.after
  have goes_on : first.result = .ok none :=
    (verdict_eq_none_iff _).mp (Option.isNone_iff_eq_none.mp (by decide +kernel))
  have stops : (verdict second.result).isSome = true := by decide +kernel
  obtain ⟨last, ended⟩ := Option.isSome_iff_exists.mp stops
  have listed : taken = [⟨echo, begun, first⟩, ⟨other, first.after, second⟩] :=
    (turns_cons_of_goOn brittle echo [other] begun goes_on).trans
      (congrArg (_ :: ·) (turns_cons_of_ended brittle other [] first.after last ended))
  obtain ⟨io, -, -, -, -, -, -, -, courses⟩ :=
    run_contains_failures brittle [echo, other] ⟨none, Files.none⟩ Flaws.none
  have refused := (courses [] _ _ listed).2.2.2
    ⟨⟨.line, .writeFailed⟩, by decide +kernel, .inl rfl, by decide⟩
  have cut := (courses [_] _ [] listed).2.2.2
    ⟨⟨.line, .writeFailed⟩, by decide +kernel, .inl rfl, by decide⟩
  refine ⟨io.mpr ⟨⟨.report, .writeFailed⟩, by decide +kernel, by decide⟩, _, _, listed, ?_, ?_⟩
  · obtain ⟨text, flushed, between, error, failure, report, accepted, told, contained⟩ := refused
    refine ⟨text, flushed, between, error, failure, report, accepted, told, contained, ?_⟩
    rw [contained.told_eq]
    decide +kernel
  · obtain ⟨text, flushed, between, error, failure, report, accepted, told, contained⟩ := cut
    refine ⟨text, flushed, between, error, failure, report, accepted, told, contained, ?_⟩
    rw [contained.told_eq]
    decide +kernel

end Session

end CommandShell
