import CommandShell.Proofs.Lookup
import CommandShell.Proofs.Session.Reference

/-!
What `type` tells of a name, and what the name does as a line of its own.
-/

set_option autoImplicit false

namespace CommandShell

variable {ω σ : Type}

theorem lineBytes_inj {first second : Text} : lineBytes first = lineBytes second ↔ first = second := by
  constructor
  · intro same
    exact List.append_cancel_right (Utf8.encode_injective same)
  · rintro rfl
    rfl

/-- A line of one word. -/
theorem Command.parse_word {name : Text} (filled : name ≠ [])
    (whole : ∀ c ∈ name, CommandShell.isBlank c = false) : parse name = ⟨name, []⟩ := by
  have alone : words name = [name] := pieces_of_whole _ name filled whole
  rw [parse, alone]

/-- A line that asks for a name. -/
theorem Command.parse_type {name : Text} (filled : name ≠ [])
    (whole : ∀ c ∈ name, CommandShell.isBlank c = false) :
    parse ("type ".toList ++ name) = ⟨Builtin.type.name, [name]⟩ := by
  have two : words ("type ".toList ++ name) = [Builtin.type.name, name] := by
    have cut := pieces_append_cons CommandShell.isBlank Builtin.type.name name ' ' (by decide)
    have front : pieces CommandShell.isBlank Builtin.type.name = [Builtin.type.name] := by decide
    rw [front, pieces_of_whole _ name filled whole] at cut
    exact cut
  rw [parse, two]

namespace Session

/-- A line that has begun is over when the end of what it has started is learnt. -/
theorem executeLine_of_begun (setting : Setting ω σ) (line : Text) (before : State ω σ) (begun : Begun)
    (begins : (beginLine setting line before).result = .ok begun) :
    executeLine setting line before =
      ⟨.ok begun.outcome, (beginLine setting line before).after,
        (beginLine setting line before).trace ++
          begun.ending (beginLine setting line before).after.phase⟩ := by
  rw [executeLine, Act.bind_of_ok _ _ _ begun begins, complete_apply]

/-- Under a sink that never fails a line shows what its errand comes to, and nothing else. -/
theorem executeLine_shows (setting : Setting ω σ) (reliable : setting.sink.NeverFails) (line : Text)
    (before : State ω σ) (filled : (Command.parse line).isBlank = false) :
    let errand := Errand.of setting.source (setting.host.look before.world) (Command.parse line)
    let ran := executeLine setting line before
    ran.result = .ok errand.outcome ∧
      ran.trace.sights = (errand.response setting.host (Command.parse line) before.attempts
        before.world).sights := by
  intro errand ran
  obtain ⟨begun, result, outcome, seen, -, -⟩ := perform_shows setting reliable _ _ _ _
    (perform_cases setting (Command.parse line) errand (State.dispatching before))
  have begins := beginLine_of_command setting line before filled
  rw [dispatch_eq_perform] at begins
  have started : (beginLine setting line before).result = .ok begun := by
    rw [begins]
    exact result
  have whole : ran = _ := executeLine_of_begun setting line before begun started
  rw [whole]
  refine ⟨congrArg Except.ok outcome, ?_⟩
  rw [begins]
  simp only [Trace.sights_append, opening, Trace.sights_ofNotes, Begun.sights_ending, List.append_nil]
  exact seen

/-- A line does what a builtin without arguments does, and starts nothing. -/
def RunsBuiltin (setting : Setting ω σ) (builtin : Builtin) (before : State ω σ)
    (ran : Ran ω σ ShellError Outcome) : Prop :=
  ran.trace.launches = [] ∧
    ran.trace.sights = (dispatchBuiltin setting builtin [] before).trace.sights ∧
    ran.result = (dispatchBuiltin setting builtin [] before).result

/-- What a builtin without arguments comes to. -/
def bare : Builtin → Errand
  | .echo => .say .builtin []
  | .type => .say .shell "type: missing argument".toList
  | .exit => .leave

theorem speak_shows (setting : Setting ω σ) (reliable : setting.sink.NeverFails) (speaker : Speaker)
    (message : Text) (before : State ω σ) :
    let ran := (do
      (Act.writeLine setting.sink message).mapError speaker.error
      return .goOn : Act ω σ ShellError Outcome) before
    ran.trace.sights = [.output (lineBytes message)] ∧ ran.result = .ok .goOn := by
  obtain ⟨after, taken⟩ := write_of_neverFails reliable before.sink (lineBytes message)
  rw [Act.bind_apply, Act.mapError_apply, Act.writeLine_of_taken _ _ _ _ taken]
  exact ⟨rfl, rfl⟩

theorem dispatchBuiltin_shows (setting : Setting ω σ) (reliable : setting.sink.NeverFails)
    (builtin : Builtin) (before : State ω σ) :
    let ran := dispatchBuiltin setting builtin [] before
    ran.trace.sights =
        ((bare builtin).response setting.host ⟨builtin.name, []⟩ before.attempts before.world).sights ∧
      ran.result = .ok (bare builtin).outcome := by
  cases builtin with
  | echo =>
    rw [dispatchBuiltin_echo]
    exact speak_shows setting reliable .builtin [] before
  | type =>
    rw [dispatchBuiltin_type_nil]
    exact speak_shows setting reliable .shell "type: missing argument".toList before
  | exit => exact ⟨rfl, rfl⟩

/-- The errand of a name without arguments. -/
theorem errand_of_word (source : PathSource) (around : Surroundings) (name : Text) :
    Errand.of source around ⟨name, []⟩ =
      match source.resolve around name with
      | .builtin builtin => bare builtin
      | .executable path => .start path
      | .notFound =>
        if name.head? = some '/' then .start (Utf8.encode name)
        else .say .shell (notFoundMessage name) := by
  rw [Errand.of]
  cases source.resolve around name with
  | builtin builtin => cases builtin <;> rfl
  | executable path => rfl
  | notFound => rfl

theorem errand_of_type (source : PathSource) (around : Surroundings) (name : Text) :
    Errand.of source around ⟨Builtin.type.name, [name]⟩ =
      .say .builtin (described name (source.resolve around name)) := by
  have known := (PathSource.resolve_eq_builtin_iff source around Builtin.type.name .type).mpr rfl
  rw [Errand.of, known, described_resolve]

/-- What is said of a name that is not found is nothing a builtin without arguments says. -/
theorem notFoundMessage_ne (name : Text) :
    notFoundMessage name ≠ [] ∧ notFoundMessage name ≠ "type: missing argument".toList := by
  have last : (notFoundMessage name).getLast? = some 'd' := by simp [notFoundMessage]
  constructor <;>
  · intro same
    rw [same] at last
    simp at last

section Described

variable {source : PathSource} {around : Surroundings} {name : Text}

theorem builtin_message (name : Text) :
    name ++ " is a shell builtin".toList = name ++ " is ".toList ++ "a shell builtin".toList := by
  rw [List.append_assoc]
  rfl

/-- The answer that a name is something is the one for builtins or gives a path. -/
theorem described_eq_path_iff (resolution : Resolution) (shown : Text) :
    described name resolution = name ++ " is ".toList ++ shown ↔
      (shown = "a shell builtin".toList ∧ ∃ builtin, resolution = .builtin builtin) ∨
        ∃ path : Path, path.display = shown ∧ resolution = .executable path := by
  cases resolution with
  | builtin builtin =>
    rw [described, builtin_message, List.append_cancel_left_eq]
    simp [eq_comm]
  | executable path => simp [described]
  | notFound => simp [described]

/-- No path is shown as the answer for builtins, since a path has a slash. -/
theorem described_eq_builtin_iff :
    described name (source.resolve around name) = name ++ " is a shell builtin".toList ↔
      ∃ builtin, source.resolve around name = .builtin builtin := by
  rw [builtin_message, described_eq_path_iff]
  constructor
  · rintro (⟨-, known⟩ | ⟨path, shown, resolved⟩)
    · exact known
    · have slash := Path.slash_mem_display (PathSource.slash_mem_of_resolve resolved)
      rw [shown] at slash
      exact absurd slash (by decide)
  · intro known
    exact .inl ⟨rfl, known⟩

theorem described_eq_notFound_iff (resolution : Resolution) :
    described name resolution = name ++ ": not found".toList ↔ resolution = .notFound := by
  cases resolution <;> simp [described]

end Described

/-- No builtin says that a command is not found. -/
theorem RunsBuiltin.output_ne {setting : Setting ω σ} {builtin : Builtin} {before : State ω σ}
    {ran : Ran ω σ ShellError Outcome} (runs : RunsBuiltin setting builtin before ran)
    (reliable : setting.sink.NeverFails) (name : Text) :
    ran.trace.output ≠ lineBytes (notFoundMessage name) := by
  obtain ⟨-, seen, -⟩ := runs
  obtain ⟨bareSeen, -⟩ := dispatchBuiltin_shows setting reliable builtin before
  obtain ⟨filled, other⟩ := notFoundMessage_ne name
  rw [Trace.output_eq_sights, seen, bareSeen]
  intro same
  cases builtin with
  | echo => exact filled (lineBytes_inj.mp ((List.append_nil _).symm.trans same)).symm
  | type => exact other (lineBytes_inj.mp ((List.append_nil _).symm.trans same)).symm
  | exit => exact lineBytes_ne_nil _ same.symm

/-- Starting a program is one launch, whatever comes of it. -/
theorem launches_of_start (host : Host ω) (command : Command) (attempts : Nat) (world : ω)
    (program : Path) :
    ((Errand.start program).response host command attempts world).sights.filterMap Sight.launched? =
      [⟨program, command.word, command.arguments⟩] := by
  simp only [Errand.response]
  split <;> rfl

/-- What a name comes to as a line of its own, by what it stands for. -/
inductive WordRan (setting : Setting ω σ) (name : Text) (before : State ω σ)
    (ran : Ran ω σ ShellError Outcome) : Resolution → Prop
  | builtin (builtin : Builtin) (runs : RunsBuiltin setting builtin before ran) :
      WordRan setting name before ran (.builtin builtin)
  | executable (path : Path) (launched : ran.trace.launches = [⟨path, name, []⟩]) :
      WordRan setting name before ran (.executable path)
  | rooted (rooted : name.head? = some '/')
      (launched : ran.trace.launches = [⟨Utf8.encode name, name, []⟩]) :
      WordRan setting name before ran .notFound
  | unknown (unrooted : name.head? ≠ some '/') (launched : ran.trace.launches = [])
      (reported : ran.trace.output = lineBytes (notFoundMessage name)) :
      WordRan setting name before ran .notFound

section Word

variable {setting : Setting ω σ} (reliable : setting.sink.NeverFails) {name : Text}

include reliable

theorem executeLine_word (filled : name ≠ []) (whole : ∀ c ∈ name, isBlank c = false)
    (before : State ω σ) :
    WordRan setting name before (executeLine setting name before)
      (setting.source.resolve (setting.host.look before.world) name) := by
  have parsed := Command.parse_word filled whole
  have kept : (Command.parse name).isBlank = false := by
    rw [parsed]
    simpa [Command.isBlank] using filled
  obtain ⟨result, seen⟩ := executeLine_shows setting reliable name before kept
  have launches := Trace.launches_eq_sights (executeLine setting name before).trace
  have output := Trace.output_eq_sights (executeLine setting name before).trace
  rw [parsed, errand_of_word] at result seen
  rw [seen] at launches output
  cases resolved : setting.source.resolve (setting.host.look before.world) name with
  | builtin builtin =>
    rw [resolved] at result seen launches
    obtain ⟨bareSeen, bareResult⟩ := dispatchBuiltin_shows setting reliable builtin before
    refine .builtin builtin ⟨launches.trans ?_, seen.trans (.trans ?_ bareSeen.symm),
      result.trans bareResult.symm⟩
    · cases builtin <;> rfl
    · cases builtin <;> rfl
  | executable path =>
    rw [resolved, launches_of_start] at launches
    exact .executable path launches
  | notFound =>
    simp only [resolved] at launches output
    by_cases rooted : name.head? = some '/'
    · rw [if_pos rooted, launches_of_start] at launches
      exact .rooted rooted launches
    · rw [if_neg rooted] at launches output
      exact .unknown rooted launches (output.trans (List.append_nil _))

/-- What is shown when a name is asked for. -/
theorem executeLine_type (filled : name ≠ []) (whole : ∀ c ∈ name, isBlank c = false)
    (before : State ω σ) :
    let resolution := setting.source.resolve (setting.host.look before.world) name
    let told := executeLine setting ("type ".toList ++ name) before
    told.result = .ok .goOn ∧ told.trace.sights = [.output (lineBytes (described name resolution))] := by
  have parsed := Command.parse_type filled whole
  have kept : (Command.parse ("type ".toList ++ name)).isBlank = false := by
    rw [parsed]
    rfl
  have shows := executeLine_shows setting reliable _ before kept
  rw [parsed, errand_of_type] at shows
  exact shows

variable {before : State ω σ} {ran : Ran ω σ ShellError Outcome} {resolution : Resolution}

/-- What a name comes to tells what it stands for: only a builtin does what a builtin does, and neither
launches anything nor says that nothing is found. -/
theorem WordRan.runsBuiltin_iff (word : WordRan setting name before ran resolution) :
    (∃ builtin, RunsBuiltin setting builtin before ran) ↔ ∃ builtin, resolution = .builtin builtin := by
  constructor
  · rintro ⟨builtin, runs⟩
    have quiet := runs.1
    cases word with
    | builtin builtin _ => exact ⟨builtin, rfl⟩
    | executable path launched =>
      rw [launched] at quiet
      cases quiet
    | rooted rooted launched =>
      rw [launched] at quiet
      cases quiet
    | unknown unrooted launched reported => exact absurd reported (runs.output_ne reliable name)
  · rintro ⟨builtin, rfl⟩
    cases word with
    | builtin _ runs => exact ⟨builtin, runs⟩

omit reliable in
theorem WordRan.launches_eq_iff (word : WordRan setting name before ran resolution)
    (unrooted : name.head? ≠ some '/') (path : Path) :
    ran.trace.launches = [⟨path, name, []⟩] ↔ resolution = .executable path := by
  constructor
  · intro started
    cases word with
    | builtin builtin runs =>
      rw [runs.1] at started
      cases started
    | executable other launched =>
      rw [launched] at started
      cases started
      rfl
    | rooted rooted _ => exact absurd rooted unrooted
    | unknown _ launched _ =>
      rw [launched] at started
      cases started
  · rintro rfl
    cases word with
    | executable _ launched => exact launched

theorem WordRan.reports_iff (word : WordRan setting name before ran resolution)
    (unrooted : name.head? ≠ some '/') :
    ran.trace.launches = [] ∧ ran.trace.output = lineBytes (notFoundMessage name) ↔
      resolution = .notFound := by
  constructor
  · rintro ⟨quiet, reported⟩
    cases word with
    | builtin builtin runs => exact absurd reported (runs.output_ne reliable name)
    | executable path launched =>
      rw [launched] at quiet
      cases quiet
    | rooted rooted _ => exact absurd rooted unrooted
    | unknown _ _ _ => rfl
  · rintro rfl
    cases word with
    | rooted rooted _ => exact absurd rooted unrooted
    | unknown _ launched reported => exact ⟨launched, reported⟩

end Word

/-- Executing a line has written this one line, and nothing else. -/
def Says (ran : Ran ω σ ShellError Outcome) (message : Text) : Prop :=
  ran.trace.output = lineBytes message

/-- What is told of a name and what the name does agree, except where it starts at the root: such a name
is never told to be found, and always launched. Asking for a name launches nothing. A path is shown with
replacements for what is no text, so a path with none is told exactly where it is launched. -/
theorem type_agrees (setting : Setting ω σ) (name : Text) (filled : name ≠ [])
    (whole : ∀ c ∈ name, isBlank c = false) (reliable : setting.sink.NeverFails)
    (before : State ω σ) :
    let told := executeLine setting ("type ".toList ++ name) before
    let ran := executeLine setting name before
    (told.trace.launches = [] ∧ told.result = .ok .goOn) ∧
      (Says told (name ++ " is a shell builtin".toList) ↔
        ∃ builtin, RunsBuiltin setting builtin before ran) ∧
      (name.head? ≠ some '/' →
        (∀ shown, Says told (name ++ " is ".toList ++ shown) ↔
          (shown = "a shell builtin".toList ∧ ∃ builtin, RunsBuiltin setting builtin before ran) ∨
            ∃ program : Path, program.display = shown ∧ ran.trace.launches = [⟨program, name, []⟩]) ∧
        (∀ program : Path, Path.slash ∈ program → '\uFFFD' ∉ program.display →
          (Says told (name ++ " is ".toList ++ program.display) ↔
            ran.trace.launches = [⟨program, name, []⟩])) ∧
        (Says told (name ++ ": not found".toList) ↔
          ran.trace.launches = [] ∧ Says ran (name ++ ": command not found".toList))) ∧
      (name.head? = some '/' →
        Says told (name ++ ": not found".toList) ∧
          ran.trace.launches = [⟨Utf8.encode name, name, []⟩]) := by
  intro told ran
  obtain ⟨result, seen⟩ := executeLine_type reliable filled whole before
  have word := executeLine_word reliable filled whole before
  have output : told.trace.output = lineBytes
      (described name (setting.source.resolve (setting.host.look before.world) name)) := by
    rw [Trace.output_eq_sights, seen]
    exact List.append_nil _
  have tells (message : Text) : Says told message ↔
      described name (setting.source.resolve (setting.host.look before.world) name) = message := by
    rw [Says, output, lineBytes_inj]
  have launches : told.trace.launches = [] := by
    rw [Trace.launches_eq_sights, seen]
    rfl
  refine ⟨⟨launches, result⟩, ?_, fun unrooted => ⟨?_, ?_, ?_⟩, fun rooted => ⟨?_, ?_⟩⟩
  · rw [tells, described_eq_builtin_iff, word.runsBuiltin_iff reliable]
  · intro shown
    rw [tells, described_eq_path_iff, word.runsBuiltin_iff reliable]
    simp only [word.launches_eq_iff unrooted, ran]
  · intro program slash clean
    rw [tells, described_eq_path_iff, word.launches_eq_iff unrooted]
    constructor
    · rintro (⟨shown, -⟩ | ⟨path, shown, resolved⟩)
      · have member := Path.slash_mem_display slash
        rw [shown] at member
        exact absurd member (by decide)
      · rw [← Path.eq_of_display_eq clean shown]
        exact resolved
    · intro resolved
      exact .inr ⟨program, rfl, resolved⟩
  · rw [tells, described_eq_notFound_iff]
    exact (word.reports_iff reliable unrooted).symm
  · rw [tells, PathSource.resolve_of_rooted _ _ rooted]
    rfl
  · rw [PathSource.resolve_of_rooted _ _ rooted] at word
    cases word with
    | rooted _ launched => exact launched
    | unknown unrooted _ _ => exact absurd rooted unrooted

/-- A setting with a search path on which every file is a program, none of which can be started. -/
def refusingAll : Setting Surroundings Unit :=
  { refusing with source := .fixed (Utf8.encode "/bin".toList) }

/-- Every path leads to a program. -/
def everything : Surroundings := ⟨none, ⟨fun _ => some (.regular true), fun _ => none⟩⟩

/-- A name that is told to be a file is launched as that file. -/
theorem type_agrees_refusingAll :
    let told := executeLine refusingAll "type nl".toList (start everything ())
    let ran := executeLine refusingAll "nl".toList (start everything ())
    refusingAll.sink.NeverFails ∧ (∀ c ∈ "nl".toList, isBlank c = false) ∧
      Says told "nl is /bin/nl".toList ∧
      ran.trace.launches = [⟨Utf8.encode "/bin/nl".toList, "nl".toList, []⟩] := by
  intro told ran
  have reliable : refusingAll.sink.NeverFails := Sink.unlimited_neverFails
  have whole : ∀ c ∈ "nl".toList, isBlank c = false :=
    List.forall_mem_cons.mpr ⟨rfl, List.forall_mem_singleton.mpr rfl⟩
  have written : Says told "nl is /bin/nl".toList := by
    unfold Says
    decide +kernel
  obtain ⟨-, -, unrooted, -⟩ := type_agrees refusingAll "nl".toList (by decide) whole reliable
    (start everything ())
  obtain ⟨-, found, -⟩ := unrooted (by decide)
  refine ⟨reliable, whole, written, ?_⟩
  exact (found (Utf8.encode "/bin/nl".toList) (by decide) (by decide)).mp written

end Session

end CommandShell
