import CommandShell.Proofs.Session.Waiting

/-!
How a program ends, or why it is refused, makes no difference to a session: two runs on hosts that agree
but for that cannot be told apart, except by what the log says of it.
-/

set_option autoImplicit false

namespace CommandShell

variable {ω σ ε α β : Type}

/-- A note that tells how a program ended, or why it was refused. -/
def Note.tellsFate : Note → Bool
  | .launchFailed _ _ | .finished _ | .finishedUnsuccessfully _ _ | .lostTrack _ _ => true
  | _ => false

def Event.tellsFate : Event → Bool
  | .noted note => note.tellsFate
  | _ => false

/-- All that happens, but for the notes on the fates of programs. -/
def Trace.withoutFates (trace : Trace) : Trace := trace.filter (!·.event.tellsFate)

@[simp] theorem Trace.withoutFates_append (first second : Trace) :
    withoutFates (first ++ second) = withoutFates first ++ withoutFates second :=
  List.filter_append ..

/-- Both programs are refused, or both are started and have the same number. -/
inductive SameStart : Except LaunchError RunningProcess → Except LaunchError RunningProcess → Prop
  | refused (error other : LaunchError) : SameStart (.error error) (.error other)
  | started (id : Option Nat) (report other : Report) : SameStart (.ok ⟨id, report⟩) (.ok ⟨id, other⟩)

/-- Two attempts that differ at most in how the program ends, or why it is refused. -/
structure Launched.Alike (launched other : Launched ω) : Prop where
  start : SameStart launched.outcome other.outcome
  written : launched.written = other.written
  world : launched.world = other.world

structure Host.Alike (host other : Host ω) : Prop where
  look : host.look = other.look
  launch : ∀ attempts world request,
    (host.launch attempts world request).Alike (other.launch attempts world request)

theorem Host.Alike.reporting {host other : Host ω} (alike : host.Alike other) (reports : Nat → Report) :
    host.Alike (other.reporting reports) := by
  refine ⟨alike.look, fun attempts world request => ?_⟩
  obtain ⟨start, written, left⟩ := alike.launch attempts world request
  refine ⟨?_, written, left⟩
  change SameStart _ ((other.launch attempts world request).outcome.map _)
  generalize (host.launch attempts world request).outcome = outcome at start ⊢
  generalize (other.launch attempts world request).outcome = answer at start ⊢
  cases start with
  | refused error other => exact .refused error other
  | started id report other => exact .started id report _

theorem Host.still_alike {launcher other : Launcher}
    (start : ∀ attempts request, SameStart (launcher attempts request) (other attempts request)) :
    (Host.still launcher).Alike (Host.still other) :=
  ⟨rfl, fun attempts _ request => ⟨start attempts request, rfl, rfl⟩⟩

/-- The same error, or values that correspond. -/
inductive SameResult (same : α → α → Prop) : Except ε α → Except ε α → Prop
  | error (error : ε) : SameResult same (.error error) (.error error)
  | ok (value other : α) (related : same value other) : SameResult same (.ok value) (.ok other)

theorem SameResult.eq {result other : Except ε α} (related : SameResult Eq result other) :
    result = other := by
  cases related with
  | error error => rfl
  | ok value other related => rw [related]

/-- Two runs that only the fates of programs tell apart, with results that correspond. -/
structure Ran.Alike (same : α → α → Prop) (ran other : Ran ω σ ε α) : Prop where
  result : SameResult same ran.result other.result
  after : ran.after = other.after
  trace : ran.trace.withoutFates = other.trace.withoutFates

namespace Act

/-- Wherever two acts begin, only the fates of programs tell them apart. -/
def Alike (same : α → α → Prop) (act other : Act ω σ ε α) : Prop :=
  ∀ before, (act before).Alike same (other before)

namespace Alike

variable {same : α → α → Prop}

theorem refl (reflexive : ∀ value, same value value) (act : Act ω σ ε α) : Alike same act act := by
  intro before
  refine ⟨?_, rfl, rfl⟩
  cases (act before).result with
  | error error => exact .error error
  | ok value => exact .ok value value (reflexive value)

theorem pure {value other : α} (related : same value other) :
    Alike same (Pure.pure value : Act ω σ ε α) (Pure.pure other) :=
  fun _ => ⟨.ok value other related, rfl, rfl⟩

theorem bind {later : β → β → Prop} {act other : Act ω σ ε α} {next following : α → Act ω σ ε β}
    (first : Alike same act other)
    (rest : ∀ value answer, same value answer → Alike later (next value) (following answer)) :
    Alike later (act >>= next) (other >>= following) := by
  intro before
  obtain ⟨result, after, trace⟩ := first before
  rw [bind_apply, bind_apply]
  generalize act before = ran at result after trace ⊢
  generalize other before = rerun at result after trace ⊢
  obtain ⟨outcome, reached, happened⟩ := ran
  obtain ⟨reply, arrived, befallen⟩ := rerun
  obtain rfl : reached = arrived := after
  cases result with
  | error error => exact ⟨.error error, rfl, trace⟩
  | ok value answer related =>
    obtain ⟨last, left, more⟩ := rest value answer related reached
    refine ⟨last, left, ?_⟩
    rw [Trace.withoutFates_append, Trace.withoutFates_append, more]
    exact congrArg (· ++ _) trace

/-- After the same beginning only what follows counts. -/
theorem bind_same {later : β → β → Prop} (act : Act ω σ ε α) {next following : α → Act ω σ ε β}
    (rest : ∀ value, Alike later (next value) (following value)) :
    Alike later (act >>= next) (act >>= following) := by
  refine bind (refl (fun _ => rfl) act) ?_
  rintro value _ rfl
  exact rest value

theorem attempt {act other : Act ω σ ε α} {δ : Type} (first : Alike same act other) :
    Alike (SameResult same) (act.attempt : Act ω σ δ (Except ε α)) other.attempt :=
  fun before => ⟨.ok _ _ (first before).result, (first before).after, (first before).trace⟩

theorem note {told other : Note} (tells : told.tellsFate = true) (otherTells : other.tellsFate = true) :
    Alike Eq (Act.note told : Act ω σ ε Unit) (Act.note other) := by
  intro before
  refine ⟨.ok () () rfl, rfl, ?_⟩
  simp [Trace.withoutFates, Event.tellsFate, tells, otherTells]

theorem launch {host other : Host ω} (alike : host.Alike other) (request : LaunchRequest) :
    Alike SameStart ((Act.launch host request).attempt : Act ω σ ε _)
      (Act.launch other request).attempt := by
  intro before
  obtain ⟨start, written, world⟩ := alike.launch before.attempts before.world request
  refine ⟨.ok _ _ start, ?_, ?_⟩
  · simp only [attempt_apply, launch_apply, world]
  · simp only [attempt_apply, launch_apply, written]

end Alike

end Act

/-- The same setting on another host. -/
def Setting.on (setting : Setting ω σ) (host : Host ω) : Setting ω σ := { setting with host }

namespace Session

/-- A line has come equally far, be it for two programs that end differently. -/
inductive Begun.Alike : Begun → Begun → Prop
  | done (outcome : Outcome) : Alike (.done outcome) (.done outcome)
  | waiting (name : Text) (process other : RunningProcess) :
      Alike (.waiting name process) (.waiting name other)

theorem Begun.Alike.refl (begun : Begun) : begun.Alike begun := by
  cases begun with
  | done outcome => exact .done outcome
  | waiting name process => exact .waiting name process process

variable {setting : Setting ω σ} {host : Host ω}

theorem endNote_tellsFate (name : Text) (ending : Except ProcessError Termination) :
    (endNote name ending).tellsFate = true := by
  rcases ending with error | termination
  · rfl
  · rw [endNote]
    split <;> rfl

theorem complete_alike {begun other : Begun} (alike : begun.Alike other) :
    Act.Alike Eq (complete begun : Act ω σ ε Outcome) (complete other) := by
  cases alike with
  | done outcome => exact .pure rfl
  | waiting name process other =>
    refine .bind_same _ fun _ => ?_
    refine .bind (.note (endNote_tellsFate _ _) (endNote_tellsFate _ _)) ?_
    rintro _ _ rfl
    exact .pure rfl

theorem startExternal_alike (alike : setting.host.Alike host) (program : Path) (command : Command) :
    Act.Alike Begun.Alike (startExternal setting program command)
      (startExternal (setting.on host) program command) := by
  refine .bind_same _ fun _ => ?_
  -- From here on the two go apart in what they know of the program, and come together when it is over.
  refine .bind (.launch alike _) ?_
  intro _ _ start
  cases start with
  | refused error other =>
    refine .bind (.note rfl rfl) ?_
    rintro _ _ rfl
    exact .refl Begun.Alike.refl _
  | started id report other =>
    cases id with
    | none => exact .pure (.waiting ..)
    | some id =>
      refine .bind_same (Act.note (.started id program)) fun _ => ?_
      exact .pure (.waiting ..)

theorem classify_on (alike : setting.host.Alike host) (name : Text) :
    (classify (setting.on host) name : Act ω σ ε Resolution) = classify setting name := by
  have seen : (Act.look (setting.on host).host : Act ω σ ε Surroundings) = Act.look setting.host :=
    funext fun before => by rw [Act.look_apply, Act.look_apply, alike.look]; rfl
  rw [classify, seen]
  rfl

theorem runBuiltin_on (alike : setting.host.Alike host) (builtin : Builtin) (arguments : List Text) :
    runBuiltin (setting.on host) arguments builtin = runBuiltin setting arguments builtin := by
  cases builtin with
  | echo => rfl
  | type =>
    cases arguments with
    | nil => rfl
    | cons name others =>
      rw [runBuiltin, type, classify_on alike]
      rfl
  | exit => rfl

theorem dispatch_alike (alike : setting.host.Alike host) (command : Command) :
    Act.Alike Begun.Alike (dispatch setting command) (dispatch (setting.on host) command) := by
  rw [dispatch, dispatch, classify_on alike]
  refine .bind_same _ fun resolution => ?_
  refine .bind_same _ fun _ => ?_
  cases resolution with
  | builtin builtin =>
    have same : dispatchBuiltin (setting.on host) builtin command.arguments =
        dispatchBuiltin setting builtin command.arguments := by
      rw [dispatchBuiltin, runBuiltin_on alike]
      rfl
    simp only [same]
    exact .refl Begun.Alike.refl _
  | executable path => exact startExternal_alike alike path command
  | notFound =>
    change Act.Alike _ (if _ then _ else _) (if _ then _ else _)
    split
    · exact startExternal_alike alike (Utf8.encode command.word) command
    · exact .refl Begun.Alike.refl _

theorem beginLine_alike (alike : setting.host.Alike host) (line : Text) :
    Act.Alike Begun.Alike (beginLine setting line) (beginLine (setting.on host) line) := by
  refine .bind_same _ fun _ => ?_
  change Act.Alike _ (if _ then _ else _) (if _ then _ else _)
  split
  · exact .refl Begun.Alike.refl _
  · refine .bind_same _ fun _ => ?_
    exact dispatch_alike alike (Command.parse line)

theorem executeLine_alike (alike : setting.host.Alike host) (line : Text) :
    Act.Alike Eq (executeLine setting line) (executeLine (setting.on host) line) :=
  .bind (beginLine_alike alike line) fun _ _ same => complete_alike same

theorem obeyLine_alike (alike : setting.host.Alike host) (line : Text) :
    Act.Alike Eq (obeyLine setting line) (obeyLine (setting.on host) line) := by
  refine .bind (executeLine_alike alike line).attempt ?_
  intro _ _ same
  rw [same.eq]
  exact .refl (fun _ => rfl) _

theorem obey_alike (alike : setting.host.Alike host) (reading : Reading) :
    Act.Alike Eq (obey setting reading) (obey (setting.on host) reading) := by
  cases reading with
  | line text => exact obeyLine_alike alike text
  | _ => exact .refl (fun _ => rfl) _

theorem turn_alike (alike : setting.host.Alike host) (item : Item ω σ) :
    Act.Alike Eq (turn setting item) (turn (setting.on host) item) := by
  refine .bind_same _ fun _ => ?_
  refine .bind_same _ fun _ => ?_
  exact obey_alike alike item.reading

/-- Each turn ends in the same state, so the next one begins in the same state too. -/
theorem run_alike (alike : setting.host.Alike host) (items : List (Item ω σ)) :
    Act.Alike Eq (run setting items) (run (setting.on host) items) := by
  induction items with
  | nil => exact .refl (fun _ => rfl) _
  | cons item rest ih =>
    refine .bind (turn_alike alike item) ?_
    rintro code _ rfl
    cases code with
    | none => exact ih
    | some code => exact .pure rfl

/-- For all that has been settled, there are reports that settle it. -/
theorem Reachable.agrees_some {items : List (Item ω σ)} {world : ω} {sink : σ} {system : System ω σ}
    (reached : Reachable setting (outset items world sink) system) :
    ∃ reports, system.history.Agrees reports := by
  have one (child : Nat) :
      ∃ report, ∀ other, .settled child other ∈ system.history → report = other := by
    by_cases settled : ∃ report, .settled child report ∈ system.history
    · obtain ⟨report, member⟩ := settled
      obtain ⟨past, later, whole⟩ := List.append_of_mem member
      refine ⟨report, fun other again => ?_⟩
      have once := settled_once reached.sound.lawful whole other
      rw [whole] at again
      simp only [List.mem_append, List.mem_cons, Occurrence.settled.injEq, true_and] at again once
      tauto
    · exact ⟨.dropped, fun other member => absurd ⟨other, member⟩ settled⟩
  choose reports agrees using one
  exact ⟨reports, agrees⟩

/-- How programs end, and why they are refused, never matters to a session. On another host that differs
in this alone all but the notes that tell of it happens as before, in the same order and the same phases,
and the session ends the same way. It does so whenever the ends are reported, and goes no other way as
far as it comes where one never is. -/
theorem run_ignores_fates (setting : Setting ω σ) (host : Host ω) (alike : setting.host.Alike host)
    (items : List (Item ω σ)) (world : ω) (sink : σ) :
    let ran := run setting items (start world sink)
    let rerun := run (setting.on host) items (start world sink)
    rerun.trace.withoutFates = ran.trace.withoutFates ∧ rerun.result = ran.result ∧
      rerun.after = ran.after ∧
      ∀ system, Reachable (setting.on host) (outset items world sink) system →
        system.history.moments.withoutFates <+: ran.trace.withoutFates ∧
          ∀ result, system.position = .ended result →
            system.history.moments.withoutFates = ran.trace.withoutFates ∧ result = ran.result ∧
              system.session = ran.after := by
  intro ran rerun
  obtain ⟨result, after, trace⟩ := run_alike alike items (start world sink)
  refine ⟨trace.symm, result.eq.symm, after.symm, ?_⟩
  intro system reached
  obtain ⟨reports, agrees⟩ := reached.agrees_some
  have followed := reached.follows_run reports agrees
  obtain ⟨result, after, trace⟩ := run_alike (alike.reporting reports) items (start world sink)
  have same : (setting.on host).reporting reports = setting.on (host.reporting reports) := rfl
  rw [← same, followed] at result after trace
  rw [Trace.withoutFates_append] at trace
  refine ⟨⟨_, trace.symm⟩, ?_⟩
  intro last ended
  rw [ended] at result after trace
  refine ⟨?_, result.eq.symm, after.symm⟩
  simpa [remaining, Trace.withoutFates] using trace.symm

/-- A program that succeeds and one that is not there, against one that is lost sight of and one that
cannot be started. -/
theorem run_ignores_fates_lost :
    let fine : Launcher := fun attempts request =>
      if attempts = 0 then .ok ⟨some 7, .reported (.ok (.exited 0))⟩ else .error (.notFound request.name)
    let bad : Launcher := fun attempts request =>
      if attempts = 0 then .ok ⟨some 7, .dropped⟩ else .error (.spawn request.name "denied".toList)
    let setting : Setting Surroundings Unit := ⟨.environment, .still fine, .unlimited, "$ ".toList⟩
    let items : List (Item Surroundings Unit) :=
      [.plain (.line "/x".toList), .plain (.line "/y z".toList)]
    let ran := run setting items (start ⟨none, Files.none⟩ ())
    let rerun := run (setting.on (.still bad)) items (start ⟨none, Files.none⟩ ())
    setting.host.Alike (.still bad) ∧ rerun.trace ≠ ran.trace ∧
      rerun.trace.withoutFates = ran.trace.withoutFates ∧ rerun.result = ran.result := by
  intro fine bad setting items ran rerun
  have alike : setting.host.Alike (.still bad) := by
    refine Host.still_alike fun attempts request => ?_
    change SameStart (if _ then _ else _) (if _ then _ else _)
    split
    · exact .started (some 7) (.reported (.ok (.exited 0))) .dropped
    · exact .refused _ _
  obtain ⟨trace, result, -, -⟩ :=
    run_ignores_fates setting (.still bad) alike items ⟨none, Files.none⟩ ()
  refine ⟨alike, ?_, trace, result⟩
  decide

end Session

end CommandShell
