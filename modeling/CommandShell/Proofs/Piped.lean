import CommandShell.Program
import CommandShell.Proofs.Input
import CommandShell.Proofs.Session.Endings
import CommandShell.Proofs.Shown

/-!
A program on an input that nobody types is a session on a script: the lines the input is cut into.
-/

set_option autoImplicit false

namespace CommandShell

variable {ω σ : Type}

namespace Session

/-- Runs a session on an input, taking a line off it whenever one is asked for, with a say in what the
lines read as. -/
def runReading (setting : Setting ω σ) (read : Bytes → Reading) (input : Bytes) :
    Act ω σ ShellError Nat :=
  match _found : Input.nextLine input with
  | none => do
    awaitLine setting
    finish setting
  | some (line, rest) => do
    match ← turn setting (.plain (read line)) with
    | some code => return code
    | none => runReading setting read rest
termination_by input.length
decreasing_by exact Input.length_lt_of_nextLine _found

theorem runReading_of_none (setting : Setting ω σ) (read : Bytes → Reading) {input : Bytes}
    (found : Input.nextLine input = none) :
    runReading setting read input = run setting [] := by
  rw [runReading]
  split
  · rfl
  · simp_all

theorem runReading_of_some (setting : Setting ω σ) (read : Bytes → Reading)
    {input line rest : Bytes} (found : Input.nextLine input = some (line, rest)) :
    runReading setting read input = (do
      match ← turn setting (.plain (read line)) with
      | some code => return code
      | none => runReading setting read rest) := by
  rw [runReading]
  split
  · simp_all
  next first others same =>
    obtain ⟨rfl, rfl⟩ : first = line ∧ others = rest := by simp_all
    rfl

/-- The session on an input is the one in which its lines read as they do. -/
theorem runInput_eq (setting : Setting ω σ) (input : Bytes) :
    runInput setting input = runReading setting Input.reading input := by
  induction input using Input.lines.induct with
  | case1 input found =>
    rw [runReading_of_none setting _ found, runInput]
    split
    · rfl
    · simp_all
  | case2 input line rest found ih =>
    rw [runReading_of_some setting _ found, runInput]
    split
    · simp_all
    next first others same =>
      obtain ⟨rfl, rfl⟩ : first = line ∧ others = rest := by simp_all
      exact ih ▸ rfl

/-- The readings of some lines, while nothing changes around. -/
def script (read : Bytes → Reading) (lines : List Bytes) : List (Item ω σ) :=
  lines.map fun line => .plain (read line)

theorem script_append_cons (read : Bytes → Reading) (front back : List Bytes) (last : Bytes) :
    (script read (front ++ last :: back) : List (Item ω σ)) =
      script read front ++ .plain (read last) :: script read back := by
  rw [script, List.map_append, List.map_cons]
  rfl

theorem mem_script {read : Bytes → Reading} {lines : List Bytes} {item : Item ω σ} :
    item ∈ script read lines ↔ ∃ line ∈ lines, .plain (read line) = item := List.mem_map

theorem run_script_of_no_ending (setting : Setting ω σ) (reliable : setting.sink.NeverFails)
    (read : Bytes → Reading) (lines : List Bytes)
    (goesOn : ∀ line ∈ lines, (read line).ending = none) (before : State ω σ) :
    (run setting (script read lines) before).result = .ok 0 := by
  apply run_of_no_ending setting reliable
  intro item member
  obtain ⟨line, among, rfl⟩ := mem_script.mp member
  exact goesOn line among

/-- The first line that ends a session is the last one that is read. -/
theorem run_script_of_ending (setting : Setting ω σ) (reliable : setting.sink.NeverFails)
    (read : Bytes → Reading) (front back : List Bytes) (last : Bytes)
    (goesOn : ∀ line ∈ front, (read line).ending = none) {result : Except ShellError Nat}
    (ends : (read last).ending = some result) (before : State ω σ) :
    (run setting (script read (front ++ last :: back)) before).result = result ∧
      run setting (script read (front ++ last :: back)) before =
        run setting (script read (front ++ [last])) before ∧
      (turns setting (script read (front ++ last :: back)) before).length = front.length + 1 := by
  have quiet : ∀ item ∈ (script read front : List (Item ω σ)), item.reading.ending = none := by
    intro item member
    obtain ⟨line, among, rfl⟩ := mem_script.mp member
    exact goesOn line among
  have taken := run_of_ending setting reliable _ (script read back) (.plain (read last)) quiet result
    ends before
  rw [script_append_cons, script_append_cons]
  simpa [script] using taken

/-- An input is a script: the readings of its lines. -/
theorem runReading_eq_run (setting : Setting ω σ) (read : Bytes → Reading) (input : Bytes) :
    runReading setting read input = run setting (script read (Input.lines input)) := by
  induction input using Input.lines.induct with
  | case1 input found => rw [runReading_of_none setting read found, Input.lines_of_none found]; rfl
  | case2 input line rest found ih =>
    rw [runReading_of_some setting read found, Input.lines_of_some found, ih]
    rfl

end Session

namespace Input

/-- A line that asks to leave. -/
def Exits (line : Bytes) : Prop :=
  ∃ text, Utf8.decode line = some text ∧ (Command.parse text).word = Builtin.exit.name

/-- A line after which no other is read: it asks to leave, or it is not UTF-8. -/
def Stops (line : Bytes) : Prop := Exits line ∨ Utf8.decode line = none

variable {edit : Bytes → Except EditorError Text} {line : Bytes}

/-- A text that does not ask to leave. -/
theorem not_stops_encode {text : Text} (stays : (Command.parse text).word ≠ Builtin.exit.name) :
    ¬Stops (Utf8.encode text) := by
  have decoded : Utf8.decode (Utf8.encode text) = some text :=
    (Utf8.decode_eq_some_iff _ _).mpr rfl
  rintro (⟨other, same, named⟩ | broken)
  · rw [decoded] at same
    obtain rfl := Option.some.inj same
    exact stays named
  · rw [decoded] at broken
    cases broken

theorem Edits.ending_of_exits (edits : Edits edit line) (exits : Exits line) :
    (Reading.ofEditor (edit line)).ending = some (.ok 0) := by
  obtain ⟨text, decoded, named⟩ := exits
  rw [edits.text text decoded]
  exact if_pos named

theorem Edits.ending_of_refused (edits : Edits edit line) (broken : Utf8.decode line = none) :
    ∃ reason, edit line = .error (.io reason) ∧
      (Reading.ofEditor (edit line)).ending = some (.error (.input (.readline reason))) := by
  obtain ⟨reason, refused⟩ := edits.refused broken
  exact ⟨reason, refused, by rw [refused]; rfl⟩

theorem Edits.ending_of_not_stops (edits : Edits edit line) (goesOn : ¬Stops line) :
    (Reading.ofEditor (edit line)).ending = none := by
  cases decoded : Utf8.decode line with
  | none => exact absurd (.inr decoded) goesOn
  | some text =>
    rw [edits.text text decoded]
    exact if_neg fun named => goesOn (.inl ⟨text, decoded, named⟩)

end Input

namespace Program

variable (machine : Machine) (options : Options) {ran : Ran ω σ ShellError Nat}

theorem report_output (ran : Ran ω σ ShellError Nat) :
    (report machine options ran).output = Terminal.output machine ran.trace := by
  unfold report
  cases ran.result <;> rfl

theorem report_of_ok {code : Nat} (left : ran.result = .ok code) :
    (report machine options ran).code = code := by
  rw [report, left]

theorem report_of_error {error : ShellError} (failed : ran.result = .error error) :
    (report machine options ran).code = 1 ∧
      (report machine options ran).diagnostics.getLast? = some (farewell error) := by
  rw [report, failed]
  exact ⟨rfl, List.getLast?_concat⟩

theorem run_of_parse {arguments : List Bytes} {options : Options}
    (parsed : Options.parse (machine.get "MARROW_HISTORY_SIZE") arguments = .ok options)
    (input : Bytes) : run machine arguments input = runWith machine options input := by
  rw [run, parsed]

/-- A session on an input that nobody types, with a line editor that yields its lines as they are and has
an error for those that are not UTF-8, is the session on the script of these lines: it does the same,
writes the same, starts the same programs and ends the same way. Its output stream holds what the sink has
taken and what the programs have written, in this order, and prompts if they are shown. Its exit code
is 0 if no line stops it, or if the first that does asks to leave; if that one is not UTF-8 the exit code
is 1 and the last line on the error stream says why. No line behind it is read. Where the lines read
just as that editor has them, this is what the program does on the input, on its machine and for all
arguments that give these options. -/
theorem report_of_piped (setting : Setting ω σ) (reliable : setting.sink.NeverFails)
    (before : State ω σ) (input : Bytes) (edit : Bytes → Except EditorError Text)
    (edits : ∀ line ∈ Input.lines input, Input.Edits edit line) :
    let read (line : Bytes) : Reading := .ofEditor (edit line)
    let lines := Input.lines input
    let ran := Session.runReading setting read input before
    let finished := report machine options ran
    (∀ found, Input.Cuts input found ↔ found = lines) ∧
    ran = Session.run setting (Session.script read lines) before ∧
    (finished.output =
        Part.joined (ran.trace.parts.filter (Part.isSeen (Terminal.showsPrompts machine))) ∧
      Part.said .session ran.trace.parts = ran.trace.output ∧
      (Terminal.showsPrompts machine = false → Part.said .program ran.trace.parts = [] →
        finished.output = ran.trace.output)) ∧
    ((∀ line ∈ lines, ¬Input.Stops line) → finished.code = 0) ∧
    (∀ front last back, lines = front ++ last :: back → (∀ line ∈ front, ¬Input.Stops line) →
      (Input.Exits last → finished.code = 0) ∧
      (Utf8.decode last = none →
        finished.code = 1 ∧ ∃ reason, edit last = .error (.io reason) ∧
          finished.diagnostics.getLast? = some (.raw (Utf8.encode
            ("marrow: ".toList ++ ("Readline error: ".toList ++ reason) ++ ['\n'])))) ∧
      (Input.Stops last →
        ran = Session.run setting (Session.script read (front ++ [last])) before ∧
        (Session.turns setting (Session.script read lines) before).length = front.length + 1)) ∧
    ((∀ line ∈ lines, Input.reading line = read line) →
      let prompted := Terminal.setting .environment options.config.prompt
      let actual := Session.runReading prompted read input (Session.start machine ())
      Terminal.run machine .environment options.config.prompt input = actual ∧
      ∀ arguments, Options.parse (machine.get "MARROW_HISTORY_SIZE") arguments = .ok options →
        run machine arguments input = report machine options actual) := by
  intro read lines ran finished
  have scripted : ran = Session.run setting (Session.script read lines) before :=
    congrFun (Session.runReading_eq_run setting read input) before
  have written : finished.output = Terminal.output machine ran.trace := report_output _ _ _
  refine ⟨?_, scripted, ⟨?_, Trace.said_session _, ?_⟩, ?_, ?_, ?_⟩
  · intro found
    rw [Input.cuts_iff, eq_comm]
  · rw [written, Terminal.output_eq_parts]
  · intro hidden silent
    rw [written, Terminal.output_of_silent hidden silent]
  · intro goesOn
    apply report_of_ok
    rw [scripted]
    exact Session.run_script_of_no_ending setting reliable read lines
      (fun line among => (edits line among).ending_of_not_stops (goesOn line among)) before
  · intro front last back split goesOn
    have edits_last : Input.Edits edit last := edits last (by simp [lines, split])
    have quiet (line : Bytes) (among : line ∈ front) : (read line).ending = none :=
      (edits line (by simp [lines, split, among])).ending_of_not_stops (goesOn line among)
    have ended {result : Except ShellError Nat} (ends : (read last).ending = some result) :=
      Session.run_script_of_ending setting reliable read front back last quiet ends before
    rw [← split, ← scripted] at ended
    refine ⟨?_, ?_, ?_⟩
    · intro exits
      exact report_of_ok _ _ (ended (edits_last.ending_of_exits exits)).1
    · intro broken
      obtain ⟨reason, refused, ends⟩ := edits_last.ending_of_refused broken
      obtain ⟨code, told⟩ := report_of_error machine options (ended ends).1
      exact ⟨code, reason, refused, told⟩
    · rintro (exits | broken)
      · exact (ended (edits_last.ending_of_exits exits)).2
      · obtain ⟨reason, -, ends⟩ := edits_last.ending_of_refused broken
        exact (ended ends).2
  · intro same prompted actual
    have alike : (Session.script Input.reading lines : List (Item Machine Unit)) =
        Session.script read lines := List.map_congr_left fun line member => by rw [same line member]
    have done : Terminal.run machine .environment options.config.prompt input = actual := by
      rw [Terminal.run, Session.runInput_eq, Session.runReading_eq_run, alike]
      exact (congrFun (Session.runReading_eq_run prompted read input) _).symm
    refine ⟨done, ?_⟩
    intro arguments parsed
    rw [run_of_parse machine parsed, runWith, done]

/-- Two commands, a line that is not UTF-8, and `exit`, which is not reached. -/
def brokenInput : Bytes :=
  Utf8.encode "echo a".toList ++ Input.carriageReturn :: Input.lineFeed ::
    (Utf8.encode "x".toList ++ Input.lineFeed ::
      ([0xFF] ++ Input.lineFeed :: (Utf8.encode "exit".toList ++ Input.lineFeed :: [])))

theorem lines_brokenInput : Input.lines brokenInput =
    [Utf8.encode "echo a".toList, Utf8.encode "x".toList, [0xFF], Utf8.encode "exit".toList] :=
  Input.lines_of_cuts
    (.returned _ _ _ (by decide +kernel)
      (.fed _ _ _ (by decide +kernel) (by decide +kernel)
        (.fed _ _ _ (by decide) (by decide)
          (.fed _ _ _ (by decide +kernel) (by decide +kernel) .nothing))))

/-- A host that has every program, each of which writes a line. -/
def writing : Setting Unit Unit :=
  ⟨.environment,
    ⟨fun _ => ⟨some (Utf8.encode "/b".toList), ⟨fun _ => some (.regular true), fun _ => none⟩⟩,
      fun _ _ _ => ⟨.ok ⟨none, .dropped⟩, ⟨Utf8.encode "b\n".toList, []⟩, ()⟩⟩,
    .unlimited, "$ ".toList⟩

/-- The program on a machine without PATH; and a host that has the second command, on a terminal that is
shown the prompts. -/
theorem report_of_piped_broken :
    let machine := Machine.workingIn (Utf8.encode "/tmp".toList)
    let dumb := machine.set "TERM" (some (Utf8.encode "dumb".toList))
    let finished := run machine [] brokenInput
    let read (line : Bytes) : Reading := .ofEditor (Input.unedited line)
    let written := report dumb .default
      (Session.runReading writing read brokenInput (Session.start () ()))
    (finished.code = 1 ∧ finished.output = Utf8.encode "a\nx: command not found\n".toList ∧
      finished.diagnostics.getLast? = some (.raw (Utf8.encode
        "marrow: Readline error: stream did not contain valid UTF-8\n".toList))) ∧
    written.code = 1 ∧ written.output = Utf8.encode "$ a\n$ b\n$ ".toList := by
  intro machine dumb finished read written
  have edits (line : Bytes) (_ : line ∈ Input.lines brokenInput) := Input.edits_unedited line
  have goesOn : ∀ line ∈ [Utf8.encode "echo a".toList, Utf8.encode "x".toList],
      ¬Input.Stops line := by
    intro line among
    rcases List.mem_pair.mp among with rfl | rfl
    · exact Input.not_stops_encode (by decide +kernel)
    · exact Input.not_stops_encode (by decide +kernel)
  refine ⟨?_, ?_⟩
  · obtain ⟨-, -, ⟨shown, -, -⟩, -, stopped, actual⟩ := report_of_piped machine .default
      (Terminal.setting .environment Options.default.config.prompt)
      Sink.unlimited_neverFails (Session.start machine ()) brokenInput Input.unedited edits
    have plain : 0x08 ∉ brokenInput := by decide +kernel
    have same : finished = _ := (actual fun _ => Input.reading_of_mem_lines plain).2 [] rfl
    obtain ⟨-, broken, only⟩ := stopped _ _ _ lines_brokenInput goesOn
    obtain ⟨code, reason, refused, told⟩ := broken (by decide)
    obtain rfl : "stream did not contain valid UTF-8".toList = reason :=
      EditorError.io.inj (Except.error.inj refused)
    rw [same]
    refine ⟨code, ?_, told⟩
    rw [shown, (only (.inr (by decide))).1]
    decide +kernel
  · obtain ⟨-, -, ⟨shown, -, -⟩, -, stopped, -⟩ := report_of_piped dumb .default writing
      Sink.unlimited_neverFails (Session.start () ()) brokenInput Input.unedited edits
    obtain ⟨-, broken, only⟩ := stopped _ _ _ lines_brokenInput goesOn
    refine ⟨(broken (by decide)).1, ?_⟩
    rw [shown, (only (.inr (by decide))).1]
    decide +kernel

end Program

end CommandShell
