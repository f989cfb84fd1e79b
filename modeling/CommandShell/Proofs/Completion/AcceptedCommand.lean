import CommandShell.Proofs.CommandNames
import CommandShell.Proofs.Completion.CommandWord
import CommandShell.Proofs.Session.Inquiry

/-!
What becomes of a line whose command was completed.
-/

set_option autoImplicit false

namespace CommandShell

variable {ω σ : Type}

theorem Command.parse_gap_append (gap word : Text) (blank : gap.isBlank = true) :
    parse (gap ++ word) = parse word := by
  have same : words (gap ++ word) = words word := pieces_gap_append CommandShell.isBlank gap word blank
  rw [parse, parse, same]

/-- A name is a command without arguments exactly where it holds no white space. -/
theorem Command.parse_eq_word_iff {name : Text} (filled : name ≠ []) :
    parse name = ⟨name, []⟩ ↔ ∀ c ∈ name, CommandShell.isBlank c = false := by
  constructor
  · intro parsed
    have found : words name = [name] := by
      rw [parse] at parsed
      cases split : words name with
      | nil =>
        rw [split] at parsed
        exact absurd (congrArg Command.word parsed).symm filled
      | cons word arguments =>
        rw [split] at parsed
        obtain ⟨rfl, rfl⟩ := Command.mk.inj parsed
        rfl
    apply whole_of_mem_pieces CommandShell.isBlank name
    change name ∈ words name
    rw [found]
    exact List.mem_singleton_self name
  · exact parse_word filled

theorem PathSource.ne_nil_of_resolve {source : PathSource} {around : Surroundings} {name : Text}
    (known : source.resolve around name ≠ .notFound) : name ≠ [] := by
  rintro rfl
  exact known rfl

namespace Session

/-- A line is carried out as it is parsed. -/
theorem executeLine_of_parse_eq (setting : Setting ω σ) {line other : Text}
    (same : Command.parse line = Command.parse other) :
    executeLine setting line = executeLine setting other := by
  simp only [executeLine, beginLine, same]

/-- A name that stands for something runs, as a line of its own. -/
theorem executeLine_known (setting : Setting ω σ) (reliable : setting.sink.NeverFails) (name : Text)
    (before : State ω σ) (whole : ∀ c ∈ name, isBlank c = false)
    (known : setting.source.resolve (setting.host.look before.world) name ≠ .notFound) :
    let ran := executeLine setting name before
    (∃ builtin, setting.source.resolve (setting.host.look before.world) name = .builtin builtin ∧
        RunsBuiltin setting builtin before ran) ∨
      ∃ program, setting.source.resolve (setting.host.look before.world) name = .executable program ∧
        ran.trace.launches = [⟨program, name, []⟩] := by
  have word := executeLine_word reliable (PathSource.ne_nil_of_resolve known) whole before
  generalize executeLine setting name before = ran at word ⊢
  cases resolved : setting.source.resolve (setting.host.look before.world) name with
  | builtin builtin =>
    rw [resolved] at word
    cases word with
    | builtin _ runs => exact .inl ⟨builtin, rfl, runs⟩
  | executable program =>
    rw [resolved] at word
    cases word with
    | executable _ launched => exact .inr ⟨program, rfl, launched⟩
  | notFound => exact absurd resolved known

end Session

namespace Completion

open Session (executeLine RunsBuiltin)

/-- A completed command stands for something. The line with it in place of the word at the cursor asks for
that command alone, and so runs it, exactly where the name holds no white space: a line is cut at white
space, and nothing keeps a name together. -/
theorem completed_command_runs (setting : Setting ω σ) (home : Path) (line : Text) (before : State ω σ)
    (present : Path → Bytes → Prop)
    (faithful : (setting.host.look before.world).files.Faithful present)
    (first : atCommand line = true) :
    let around := setting.host.look before.world
    ∃ completion gap word,
      completeAt setting.source around home line (Utf8.size line) = some completion ∧
      Utf8.splitAt completion.start line = some (gap, word) ∧
      ∀ candidate ∈ completion.candidates,
        let name := candidate.replacement
        let completed := gap ++ name
        let ran := executeLine setting completed before
        setting.source.resolve around name ≠ .notFound ∧
          (Command.parse completed = ⟨name, []⟩ ↔ ∀ c ∈ name, isBlank c = false) ∧
          ((∀ c ∈ name, isBlank c = false) → setting.sink.NeverFails →
            (∃ builtin, setting.source.resolve around name = .builtin builtin ∧
                RunsBuiltin setting builtin before ran) ∨
              ∃ program, setting.source.resolve around name = .executable program ∧
                ran.trace.launches = [⟨program, name, []⟩]) := by
  intro around
  have completed := completeAt_end_of_first setting.source around home first
  refine ⟨_, lead line, lastWord line, completed, ?_, ?_⟩
  · exact (Utf8.splitAt_eq_some_iff _ _ _ _).mpr
      ⟨lead_append_lastWord line, (startOf_lastWord line).symm⟩
  · intro candidate member
    obtain ⟨name, offered, rfl⟩ := List.mem_map.mp member
    have known : setting.source.resolve around name ≠ .notFound := by
      obtain ⟨-, ⟨builtin, resolved⟩ | ⟨program, resolved⟩⟩ :=
        PathSource.resolve_of_mem_commandsStarting setting.source around present faithful _ name offered
      · simp [resolved]
      · simp [resolved]
    have blank : (lead line).isBlank = true := by rw [← atCommand_eq, first]
    have parsed := Command.parse_gap_append (lead line) name blank
    refine ⟨known, ?_, ?_⟩
    · rw [parsed]
      exact Command.parse_eq_word_iff (PathSource.ne_nil_of_resolve known)
    · intro whole reliable
      rw [Session.executeLine_of_parse_eq setting parsed]
      exact Session.executeLine_known setting reliable name before whole known

open FileSystem (binPath solitary)

/-- The one program in a directory is offered for each beginning of its name. -/
theorem mem_commandNames_solitary (before name : Text) (named : IsEntryName (Utf8.encode name))
    (clean : 0 ∉ Utf8.encode name) (short : (Utf8.encode name).length ≤ FileSystem.nameLimit)
    (starts : lastWord before <+: name) :
    ⟨name, name⟩ ∈ (commandNames .environment
      ⟨some binPath, (solitary (Utf8.encode name) 0o755).view []⟩ before).candidates := by
  refine List.mem_map.mpr ⟨name, ?_, rfl⟩
  refine (PathSource.mem_commandsStarting_iff _ _ _ _).mpr (.inl ?_)
  refine (SearchPath.mem_executables_iff _ _ _ _).mpr ⟨starts, binPath, ?_, [Utf8.encode name],
    FileSystem.list_solitary 0o755, List.mem_singleton_self _, ?_⟩
  · have directories : (SearchPath.parse binPath).directories = [binPath] := by decide
    change binPath ∈ (SearchPath.parse binPath).directories
    rw [directories]
    exact List.mem_singleton_self binPath
  · rw [Files.isExecutable_iff]
    exact FileSystem.kind_solitary 0o755 named clean short

/-- A program with a space in its name is offered, and the completed line asks for another command. -/
theorem spaced_command_splits :
    let name := "a b".toList
    let files := solitary (Utf8.encode name) 0o755
    let around : Surroundings := ⟨some binPath, files.view []⟩
    let line := "a".toList
    around.files.Faithful (files.Holds []) ∧ atCommand line = true ∧
      ∃ completion gap word,
        completeAt .environment around [] line (Utf8.size line) = some completion ∧
        Utf8.splitAt completion.start line = some (gap, word) ∧
        ∃ candidate ∈ completion.candidates,
          Command.parse (gap ++ candidate.replacement) = ⟨"a".toList, ["b".toList]⟩ ∧
          Command.parse (gap ++ candidate.replacement) ≠ ⟨candidate.replacement, []⟩ := by
  intro name files around line
  have named : IsEntryName (Utf8.encode name) := by decide
  have first : atCommand line = true := by decide
  have completed := completeAt_end_of_first .environment around [] first
  refine ⟨FileSystem.view_faithful (FileSystem.solitary_wellFormed 0o755 named) [], first, _, [], line,
    completed, by rfl, ⟨name, name⟩, ?_, by decide, by decide⟩
  exact mem_commandNames_solitary line name named (by decide) (by decide) (by decide)

/-- The line ` l`, completed to ` ls`, launches the program of that name. -/
theorem completed_command_runs_ls :
    let name := "ls".toList
    let files := solitary (Utf8.encode name) 0o755
    let around : Surroundings := ⟨some binPath, files.view []⟩
    let line := " l".toList
    let before : State Surroundings Unit := Session.start around ()
    around.files.Faithful (files.Holds []) ∧ atCommand line = true ∧
      Session.refusing.sink.NeverFails ∧
      ∃ completion gap word,
        completeAt .environment around [] line (Utf8.size line) = some completion ∧
        Utf8.splitAt completion.start line = some (gap, word) ∧
        ∃ candidate ∈ completion.candidates, candidate.replacement = name ∧
          Command.parse (gap ++ name) = ⟨name, []⟩ ∧
          ∃ program, (executeLine Session.refusing (gap ++ name) before).trace.launches =
            [⟨program, name, []⟩] := by
  intro name files around line before
  have named : IsEntryName (Utf8.encode name) := by decide
  have faithful := FileSystem.view_faithful (FileSystem.solitary_wellFormed 0o755 named) []
  have first : atCommand line = true := by decide
  have reliable : Session.refusing.sink.NeverFails := Sink.unlimited_neverFails
  obtain ⟨completion, gap, word, completed, cut, runs⟩ :=
    completed_command_runs Session.refusing [] line before _ faithful first
  have named_there : ⟨name, name⟩ ∈ completion.candidates := by
    have same := completeAt_end_of_first .environment around [] first
    obtain rfl := Option.some.inj (completed.symm.trans same)
    exact mem_commandNames_solitary line name named (by decide) (by decide) (by decide)
  have whole : ∀ c ∈ name, isBlank c = false :=
    List.forall_mem_cons.mpr ⟨rfl, List.forall_mem_singleton.mpr rfl⟩
  obtain ⟨-, alone, ran⟩ := runs ⟨name, name⟩ named_there
  refine ⟨faithful, first, reliable, completion, gap, word, completed, cut, ⟨name, name⟩, named_there,
    rfl, alone.mpr whole, ?_⟩
  rcases ran whole reliable with ⟨builtin, known, -⟩ | ⟨program, -, launched⟩
  · have called := (PathSource.resolve_eq_builtin_iff _ _ _ _).mp known
    cases builtin <;> exact absurd called (by decide)
  · exact ⟨program, launched⟩

end Completion

end CommandShell
