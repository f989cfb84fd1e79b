import CommandShell.Proofs.Lookup
import CommandShell.Proofs.Session.Pause
import CommandShell.Proofs.Session.Reference

/-!
Where a program comes from that is launched: from the line that was read last, and from the search path
as it is then.
-/

set_option autoImplicit false

namespace CommandShell

/-- Where the file of a program comes from that goes by a name. A name that starts at the root is the file;
any other is below the first entry of the PATH value under which it is an executable file. -/
inductive Origin (source : PathSource) (around : Surroundings) (name : Text) : Path → Prop
  | rooted (rooted : name.head? = some '/') : Origin source around name (Utf8.encode name)
  | found (program : Path) (unrooted : name.head? ≠ some '/') (value : Bytes) (earlier : List Bytes)
      (directory : Bytes) (later : List Bytes) (set : source.value? around = some value)
      (first : FirstMatch around.files.isExecutable value (Utf8.encode name) program earlier directory
        later) :
      Origin source around name program

/-- Where a request for a launch comes from. Its name and its arguments are the words of a line. -/
structure Provenance (source : PathSource) (around : Surroundings) (line : Text)
    (request : LaunchRequest) : Prop where
  tokens : Cut isBlank line (request.name :: request.arguments)
  external : ∀ builtin : Builtin, builtin.name ≠ request.name
  origin : Origin source around request.name request.program

theorem Origin.slash_mem {source : PathSource} {around : Surroundings} {name : Text} {program : Path}
    (origin : Origin source around name program) : Path.slash ∈ program := by
  cases origin with
  | rooted rooted => exact Path.slash_mem_of_rooted rooted
  | found program unrooted value earlier directory later set first => exact first.slash_mem

/-- A name that does not start at the root is never started as it is, from the working directory. -/
theorem Origin.ne_name {source : PathSource} {around : Surroundings} {name : Text} {program : Path}
    (origin : Origin source around name program) (unrooted : name.head? ≠ some '/') :
    program ≠ Utf8.encode name := by
  cases origin with
  | rooted rooted => exact absurd rooted unrooted
  | found program _ value earlier directory later set first =>
    intro same
    have joined := congrArg List.length (first.joined.symm.trans same)
    have filled := List.length_pos_iff.mpr first.filled
    simp only [List.length_append] at joined
    omega

theorem Errand.origin_of_start {source : PathSource} {around : Surroundings} {command : Command}
    {program : Path} (starts : Errand.of source around command = .start program) :
    (∀ builtin : Builtin, builtin.name ≠ command.word) ∧
      Origin source around command.word program := by
  cases resolved : source.resolve around command.word with
  | builtin builtin =>
    rw [Errand.of, resolved] at starts
    cases builtin with
    | echo => cases starts
    | exit => cases starts
    | type =>
      cases asked : command.arguments <;> simp [asked] at starts
  | executable path =>
    rw [Errand.of, resolved] at starts
    obtain ⟨external, found⟩ := (PathSource.resolve_eq_executable_iff _ _ _ _).mp resolved
    obtain ⟨-, unrooted, value, earlier, directory, later, set, first⟩ :=
      (PathSource.findInPath_eq_some_iff _ _ _ _).mp found
    cases starts
    exact ⟨external, .found program unrooted value earlier directory later set first⟩
  | notFound =>
    rw [Errand.of, resolved] at starts
    obtain ⟨external, -⟩ := (PathSource.resolve_eq_notFound_iff _ _ _).mp resolved
    by_cases rooted : command.word.head? = some '/'
    · simp only [rooted, ↓reduceIte, Errand.start.injEq] at starts
      rw [← starts]
      exact ⟨external, .rooted rooted⟩
    · simp [rooted] at starts

/-- The words of a line that asks for something cut it. -/
theorem Command.cut_parse (line : Text) (filled : (parse line).isBlank = false) :
    Cut CommandShell.isBlank line ((parse line).word :: (parse line).arguments) := by
  have cut := cut_pieces CommandShell.isBlank line
  change Cut CommandShell.isBlank line (words line) at cut
  unfold parse at filled ⊢
  cases found : words line with
  | nil =>
    rw [found] at filled
    cases filled
  | cons word arguments =>
    rw [found] at cut
    exact cut

namespace Session

variable {ω σ : Type}

theorem obeyLine_provenance (setting : Setting ω σ) (line : Text) (before : State ω σ) :
    ∀ request ∈ (obeyLine setting line before).trace.launches,
      Provenance setting.source (setting.host.look before.world) line request := by
  intro request member
  cases blank : (Command.parse line).isBlank with
  | true =>
    rw [obeyLine_of_blank _ _ _ blank] at member
    cases member
  | false =>
    let ready := State.dispatching before
    obtain ⟨launched, -⟩ := performed_launches _ _ _ _ _
      (perform_cases setting (Command.parse line) (errandOf setting (Command.parse line) ready) ready)
    rw [obeyLine_of_command _ _ _ blank] at member
    simp only [Trace.launches_append, opening, Trace.launches_ofNotes, resume_launches] at member
    -- Only the errand launches anything: neither the notes before it nor what concludes the line do.
    rcases launched with none_launched | ⟨program, starts, one⟩
    · rw [none_launched] at member
      cases member
    · rw [one] at member
      obtain rfl := List.mem_singleton.mp member
      obtain ⟨external, origin⟩ := Errand.origin_of_start starts
      exact ⟨Command.cut_parse line blank, external, origin⟩

theorem turn_provenance (setting : Setting ω σ) (item : Item ω σ) (before : State ω σ) :
    ∀ request ∈ (turn setting item before).trace.launches, ∃ line, item.reading = .line line ∧
      Provenance setting.source (setting.host.look (item.world.getD before.world)) line request := by
  intro request member
  rcases emptied : setting.sink.flush before.sink with ⟨_ | reason, flushed⟩
  · rw [turn_of_done _ _ _ _ emptied] at member
    change request ∈ (obey setting item.reading (arranged item before flushed)).trace.launches at member
    generalize item.reading = reading at member ⊢
    cases reading with
    | line line => exact ⟨line, rfl, obeyLine_provenance setting line _ request member⟩
    | interrupted => cases member
    | failed cause => cases member
    | endOfInput =>
      rw [obey_endOfInput, (finish_launches setting _).1] at member
      cases member
  · rw [turn_of_failed _ _ _ _ _ emptied] at member
    cases member

/-- Every launch of a session comes from the line that was read last and from the search path as it is
then. All that happens, happens in turns on the readings of the script, one after another. What is
launched there is asked for by the turn's own line, in whose world it is looked for: PATH and the files as
the changes before the reading have left them. Its file is below some directory, so it is never taken from
the working directory by its bare name. -/
theorem run_launches_provenance (setting : Setting ω σ) (items : List (Item ω σ)) (world : ω)
    (sink : σ) :
    let taken := turns setting items (start world sink)
    taken.map Turned.item <+: items ++ [closing] ∧
      (run setting items (start world sink)).trace = taken.flatMap (fun turned => turned.ran.trace) ∧
      ∀ turned ∈ taken, ∀ request ∈ turned.ran.trace.launches, ∃ line,
        turned.item.reading = .line line ∧
          Provenance setting.source
            (setting.host.look (turned.item.world.getD turned.before.world)) line request ∧
          Path.slash ∈ request.program ∧
          (request.name.head? ≠ some '/' → request.program ≠ Utf8.encode request.name) := by
  obtain ⟨listed, traced, -⟩ := run_eq_turns setting items (start world sink)
  refine ⟨listed, traced, ?_⟩
  intro turned member request launched
  rw [ran_of_mem_turns setting items _ turned member] at launched
  obtain ⟨line, read, provenance⟩ :=
    turn_provenance setting turned.item turned.before request launched
  exact ⟨line, read, provenance, provenance.origin.slash_mem, provenance.origin.ne_name⟩

/-- The empty entry of a search path is passed over, and the first directory goes before the second. -/
theorem run_launches_provenance_first :
    let around : Surroundings :=
      ⟨some (Utf8.encode ":/bin:/usr".toList), ⟨fun _ => some (.regular true), fun _ => none⟩⟩
    let taken := turns refusing [.plain (.line " nl  a b".toList)] (start around ())
    let request : LaunchRequest :=
      ⟨Utf8.encode "/bin/nl".toList, "nl".toList, ["a".toList, "b".toList]⟩
    ∃ turned ∈ taken, request ∈ turned.ran.trace.launches ∧
      Cut isBlank " nl  a b".toList ["nl".toList, "a".toList, "b".toList] ∧
      Origin .environment around "nl".toList (Utf8.encode "/bin/nl".toList) := by
  intro around taken request
  let item : Item Surroundings Unit := .plain (.line " nl  a b".toList)
  let first : Turned Surroundings Unit :=
    ⟨item, start around (), turn refusing item (start around ())⟩
  have member : first ∈ turns refusing [item] (start around ()) := List.mem_cons_self
  have launched : request ∈ first.ran.trace.launches := by decide +kernel
  obtain ⟨-, -, launches⟩ := run_launches_provenance refusing [item] around ()
  obtain ⟨line, read, provenance, -, -⟩ := launches first member request launched
  cases read
  exact ⟨first, member, launched, provenance.tokens, provenance.origin⟩

end Session

end CommandShell
