import CommandShell.Proofs.FileSystem.Listing
import CommandShell.Proofs.Lookup
import CommandShell.Proofs.NameSet

/-!
The command names that are offered for a beginning are those that stand for something.
-/

set_option autoImplicit false

namespace CommandShell

theorem Builtin.mem_names_iff (name : Text) :
    name ∈ names ↔ ∃ builtin : Builtin, builtin.name = name := by
  rw [names, NameSet.mem_ofList, List.mem_map]
  constructor
  · rintro ⟨builtin, -, named⟩
    exact ⟨builtin, named⟩
  · rintro ⟨builtin, named⟩
    refine ⟨builtin, ?_, named⟩
    cases builtin <;> decide

theorem Files.isExecutable_iff (files : Files) (path : Path) :
    files.isExecutable path = true ↔ files.kind path = some (.regular true) :=
  beq_iff_eq

/-- A directory with an executable file in it. -/
def Files.HoldsExecutable (files : Files) (directory : Path) : Prop :=
  ∃ name, IsEntryName name ∧ files.isExecutable (Path.join directory name) = true

/-- An executable file below a directory has a name of its own there: the directory itself and its
parent are no files. -/
theorem Files.Faithful.isEntryName {files : Files} {present : Path → Bytes → Prop}
    (faithful : files.Faithful present) {directory : Path} {name : Bytes} (filled : directory ≠ [])
    (nonempty : name ≠ []) (single : Path.slash ∉ name)
    (executable : files.isExecutable (Path.join directory name) = true) : IsEntryName name := by
  have regular := (files.isExecutable_iff _).mp executable
  refine ⟨nonempty, single, ?_, ?_⟩
  · intro same
    exact faithful.dots directory name filled (.inl same) true regular
  · intro same
    exact faithful.dots directory name filled (.inr same) true regular

/-- An executable file below a directory is listed there. -/
theorem Files.Faithful.mem_of_isExecutable {files : Files} {present : Path → Bytes → Prop}
    (faithful : files.Faithful present) {directory : Path} {name : Bytes} {entries : List Bytes}
    (filled : directory ≠ []) (named : IsEntryName name) (listed : files.list directory = some entries)
    (executable : files.isExecutable (Path.join directory name) = true) : name ∈ entries := by
  have there : (files.kind (Path.join directory name)).isSome := by
    rw [(files.isExecutable_iff _).mp executable]
    rfl
  exact (faithful.listed directory entries listed name).mpr
    ⟨named, faithful.reached directory name filled named there⟩

namespace SearchPath

theorem find_isSome_iff (search : SearchPath) (isExecutable : Path → Bool) (name : Text) :
    (search.find isExecutable name).isSome ↔
      name ≠ [] ∧ name.head? ≠ some '/' ∧ ∃ directory ∈ search.directories,
        isExecutable (Path.join directory (Utf8.encode name)) = true := by
  by_cases searched : IsSearched name
  · obtain ⟨filled, unrooted⟩ := searched
    rw [find_of_searched search ⟨filled, unrooted⟩, List.find?_isSome]
    simp [filled, unrooted]
  · rw [find_of_not_searched search searched]
    simp only [Option.isSome_none, Bool.false_eq_true, false_iff]
    exact fun somewhere => searched ⟨somewhere.1, somewhere.2.1⟩

/-- A name is offered where a directory lists it and it is executable there. -/
theorem mem_executables_iff (search : SearchPath) (files : Files) (start name : Text) :
    name ∈ search.executables files start ↔
      start <+: name ∧ ∃ directory ∈ search.directories, ∃ entries,
        files.list directory = some entries ∧ Utf8.encode name ∈ entries ∧
          files.isExecutable (Path.join directory (Utf8.encode name)) = true := by
  simp only [executables, NameSet.mem_ofList, List.mem_flatMap, executablesIn, List.mem_filterMap,
    Option.filter_eq_some_iff, Utf8.decode_eq_some_iff, Bool.and_eq_true, List.isPrefixOf_iff_prefix]
  constructor
  · rintro ⟨directory, searched, entry, member, rfl, starts, executable⟩
    cases listed : files.list directory with
    | none => simp [listed] at member
    | some entries =>
      rw [listed] at member
      exact ⟨starts, directory, searched, entries, listed, member, executable⟩
  · rintro ⟨starts, directory, searched, entries, listed, member, executable⟩
    refine ⟨directory, searched, Utf8.encode name, ?_, rfl, starts, executable⟩
    rw [listed]
    exact member

end SearchPath

namespace PathSource

theorem ne_nil_of_mem_directories {source : PathSource} {around : Surroundings} {directory : Path}
    (searched : directory ∈ (source.searchPath around).directories) : directory ≠ [] := by
  rw [searchPath_eq] at searched
  cases set : source.value? around with
  | none => simp [set, SearchPath.empty] at searched
  | some value =>
    rw [set] at searched
    exact ne_nil_of_mem_pieces _ value directory searched

theorem mem_commandsStarting_iff (source : PathSource) (around : Surroundings) (start name : Text) :
    name ∈ source.commandsStarting around start ↔
      name ∈ (source.searchPath around).executables around.files start ∨
        start <+: name ∧ ∃ builtin : Builtin, builtin.name = name := by
  rw [commandsStarting, NameSet.mem_ofList, List.mem_append, List.mem_filter,
    List.isPrefixOf_iff_prefix, Builtin.mem_names_iff, and_comm (b := start <+: name)]

/-- What is offered for a beginning has that beginning and stands for something. -/
theorem resolve_of_mem_commandsStarting (source : PathSource) (around : Surroundings)
    (present : Path → Bytes → Prop) (faithful : around.files.Faithful present) (start name : Text)
    (offered : name ∈ source.commandsStarting around start) :
    start <+: name ∧ ((∃ builtin, source.resolve around name = .builtin builtin) ∨
      ∃ path, source.resolve around name = .executable path) := by
  rcases (mem_commandsStarting_iff source around start name).mp offered with found | builtin
  · obtain ⟨starts, directory, searched, entries, listed, member, executable⟩ :=
      (SearchPath.mem_executables_iff _ _ _ _).mp found
    refine ⟨starts, ?_⟩
    obtain ⟨nonempty, single, -, -⟩ := ((faithful.listed directory entries listed _).mp member).1
    have filled : name ≠ [] := by
      rintro rfl
      exact nonempty rfl
    have unrooted : name.head? ≠ some '/' :=
      fun rooted => single (Path.slash_mem_of_rooted rooted)
    have somewhere : (source.findInPath around name).isSome :=
      (SearchPath.find_isSome_iff _ _ _).mpr ⟨filled, unrooted, directory, searched, executable⟩
    obtain ⟨path, first⟩ := Option.isSome_iff_exists.mp somewhere
    cases known : Builtin.find? name with
    | some builtin =>
      exact .inl ⟨builtin, (resolve_eq_builtin_iff _ _ _ _).mpr
        ((Builtin.find?_eq_some_iff name builtin).mp known)⟩
    | none =>
      exact .inr ⟨path, (resolve_eq_executable_iff _ _ _ _).mpr
        ⟨(Builtin.find?_eq_none_iff name).mp known, first⟩⟩
  · obtain ⟨starts, builtin, named⟩ := builtin
    exact ⟨starts, .inl ⟨builtin, (resolve_eq_builtin_iff _ _ _ _).mpr named⟩⟩

/-- What stands for something is offered. A name that leads through directories may not be: those
directories are not searched. -/
theorem mem_commandsStarting_of_resolve (source : PathSource) (around : Surroundings)
    (present : Path → Bytes → Prop) (faithful : around.files.Faithful present) (start : Text)
    (listable : ∀ directory ∈ (source.searchPath around).directories,
      around.files.HoldsExecutable directory → (around.files.list directory).isSome)
    (name : Text) (single : '/' ∉ name) (starts : start <+: name)
    (known : source.resolve around name ≠ .notFound) :
    name ∈ source.commandsStarting around start := by
  rw [mem_commandsStarting_iff]
  cases resolved : source.resolve around name with
  | notFound => exact absurd resolved known
  | builtin builtin =>
    exact .inr ⟨starts, builtin, (resolve_eq_builtin_iff _ _ _ _).mp resolved⟩
  | executable path =>
    left
    obtain ⟨-, found⟩ := (resolve_eq_executable_iff _ _ _ _).mp resolved
    have somewhere : (source.findInPath around name).isSome := by
      rw [found]
      rfl
    -- Any directory that has the program will do, not only the first.
    obtain ⟨nonempty, -, directory, searched, executable⟩ :=
      (SearchPath.find_isSome_iff _ _ _).mp somewhere
    have filled := ne_nil_of_mem_directories searched
    have named : IsEntryName (Utf8.encode name) := by
      apply faithful.isEntryName filled _ _ executable
      · intro empty
        exact nonempty (Utf8.encode_injective empty)
      · exact fun member => single ((Path.slash_mem_encode name).mp member)
    obtain ⟨entries, listed⟩ := Option.isSome_iff_exists.mp
      (listable directory searched ⟨Utf8.encode name, named, executable⟩)
    exact (SearchPath.mem_executables_iff _ _ _ _).mpr ⟨starts, directory, searched, entries, listed,
      faithful.mem_of_isExecutable filled named listed executable, executable⟩

/-- The names offered for a beginning come in the order of their bytes, each once. They have that
beginning and stand for something. So is every name offered that has it, stands for something and leads
through no directory, if the directories with programs in them can be listed. -/
theorem commandsStarting_agrees (source : PathSource) (around : Surroundings)
    (present : Path → Bytes → Prop) (faithful : around.files.Faithful present) (start : Text) :
    let offered := source.commandsStarting around start
    NameSet.Ordered offered ∧
      (∀ name ∈ offered, start <+: name ∧
        ((∃ builtin, source.resolve around name = .builtin builtin) ∨
          ∃ path, source.resolve around name = .executable path)) ∧
      ((∀ directory ∈ (source.searchPath around).directories,
          around.files.HoldsExecutable directory → (around.files.list directory).isSome) →
        ∀ name, '/' ∉ name → start <+: name → source.resolve around name ≠ .notFound →
          name ∈ offered) := by
  refine ⟨NameSet.ofList_ordered _, ?_, ?_⟩
  · exact resolve_of_mem_commandsStarting source around present faithful start
  · exact mem_commandsStarting_of_resolve source around present faithful start

/-- A directory with one program in it and one file that is none. -/
def smallFiles : FileSystem :=
  let bin : Bytes := Utf8.encode "bin".toList
  ⟨[([bin], .directory 0o755), ([bin, Utf8.encode "ex".toList], .file 0o755 []),
    ([bin, Utf8.encode "ey".toList], .file 0o644 [])]⟩

theorem smallFiles_wellFormed : smallFiles.WellFormed := ⟨by decide, by decide⟩

theorem smallFiles_list_isSome :
    ((smallFiles.view []).list (Utf8.encode "/bin".toList)).isSome := by
  have names : FileSystem.names (Utf8.encode "/bin".toList) = [Utf8.encode "bin".toList] := by decide
  have reached := FileSystem.reach_of_walk smallFiles [] (Utf8.encode "/bin".toList)
    [Utf8.encode "bin".toList] (.directory 0o755) (by decide) (by decide)
    (by rw [names]; simp +decide [FileSystem.walk]) (by decide)
  rw [(FileSystem.list_eq_some_iff _ _ _ _).mpr ⟨_, _, reached, rfl⟩]
  rfl

theorem smallFiles_isExecutable :
    (smallFiles.view []).isExecutable
      (Path.join (Utf8.encode "/bin".toList) (Utf8.encode "ex".toList)) = true := by
  have joined : Path.join (Utf8.encode "/bin".toList) (Utf8.encode "ex".toList) =
      Utf8.encode "/bin/ex".toList := by decide
  have names : FileSystem.names (Utf8.encode "/bin/ex".toList) =
      [Utf8.encode "bin".toList, Utf8.encode "ex".toList] := by decide
  have reached := FileSystem.reach_of_walk smallFiles [] (Utf8.encode "/bin/ex".toList)
    [Utf8.encode "bin".toList, Utf8.encode "ex".toList] (.file 0o755 []) (by decide) (by decide)
    (by rw [names]; simp +decide [FileSystem.walk]) (by decide)
  rw [joined, Files.isExecutable_iff, FileSystem.kind_eq_some_iff]
  exact ⟨_, _, reached, rfl⟩

/-- Of the two files in the directory, the program is offered. -/
theorem commandsStarting_agrees_smallFiles :
    let around : Surroundings := ⟨some (Utf8.encode "/bin".toList), smallFiles.view []⟩
    let offered := PathSource.environment.commandsStarting around "e".toList
    around.files.Faithful (smallFiles.Holds []) ∧ NameSet.Ordered offered ∧ "ex".toList ∈ offered := by
  intro around offered
  have faithful := FileSystem.view_faithful smallFiles_wellFormed []
  obtain ⟨ordered, -, complete⟩ :=
    commandsStarting_agrees .environment around _ faithful "e".toList
  have directories : (PathSource.environment.searchPath around).directories =
      [Utf8.encode "/bin".toList] := by decide
  refine ⟨faithful, ordered, complete ?_ _ (by decide) (by decide) ?_⟩
  · intro directory searched _
    rw [directories, List.mem_singleton] at searched
    rw [searched]
    exact smallFiles_list_isSome
  · intro missing
    have nowhere := ((resolve_eq_notFound_iff _ _ _).mp missing).2
    have somewhere : (PathSource.environment.findInPath around "ex".toList).isSome := by
      refine (SearchPath.find_isSome_iff _ _ _).mpr
        ⟨by decide, by decide, _, ?_, smallFiles_isExecutable⟩
      rw [directories]
      exact List.mem_singleton_self _
    rw [nowhere] at somewhere
    cases somewhere

end PathSource

end CommandShell
