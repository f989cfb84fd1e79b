import CommandShell.Proofs.CommandNames
import CommandShell.Proofs.SearchPath.Entries

/-!
What the command names offered for a beginning depend on: the set of the directories searched, whatever
their order, and the beginning, which a longer one narrows.
-/

set_option autoImplicit false

namespace CommandShell

open SearchPath (colon)

/-- One of the entries that make up a PATH value when they are joined by colons. -/
def SearchPath.IsEntry (value entry : Bytes) : Prop :=
  ∃ entries : List Bytes, (∀ other ∈ entries, colon ∉ other) ∧ [colon].intercalate entries = value ∧
    entry ∈ entries

theorem SearchPath.mem_parse_iff (value : Bytes) (directory : Path) :
    directory ∈ (parse value).directories ↔ directory ≠ [] ∧ IsEntry value directory := by
  constructor
  · intro searched
    obtain ⟨joined, free⟩ := intercalate_stretches colon value
    refine ⟨ne_nil_of_mem_pieces _ value directory searched, stretches (· == colon) value, free, joined,
      ?_⟩
    exact List.mem_of_mem_filter searched
  · rintro ⟨filled, entries, free, rfl, member⟩
    rw [parse_joined entries free, List.mem_filter]
    exact ⟨member, by simpa using filled⟩

namespace PathSource

/-- A directory that is searched: an entry of the PATH value in force, and not an empty one. -/
def Searches (source : PathSource) (around : Surroundings) (directory : Path) : Prop :=
  directory ≠ [] ∧ ∃ value, source.value? around = some value ∧ SearchPath.IsEntry value directory

theorem mem_searchPath_iff (source : PathSource) (around : Surroundings) (directory : Path) :
    directory ∈ (source.searchPath around).directories ↔ source.Searches around directory := by
  rw [searchPath_eq, Searches]
  cases source.value? around with
  | none => simp [SearchPath.empty]
  | some value => simpa using SearchPath.mem_parse_iff value directory

/-- A name is offered if it has the beginning and is a builtin's, or if a directory that is searched can be
listed and has an executable file of that name. -/
theorem mem_commandsStarting (source : PathSource) (around : Surroundings) (start name : Text) :
    name ∈ source.commandsStarting around start ↔
      start <+: name ∧ ((∃ builtin : Builtin, builtin.name = name) ∨
        ∃ directory entries, source.Searches around directory ∧
          around.files.list directory = some entries ∧ Utf8.encode name ∈ entries ∧
          around.files.isExecutable (Path.join directory (Utf8.encode name)) = true) := by
  rw [mem_commandsStarting_iff, SearchPath.mem_executables_iff]
  constructor
  · rintro (⟨starts, directory, searched, entries, found⟩ | ⟨starts, builtin⟩)
    · exact ⟨starts, .inr ⟨directory, entries, (mem_searchPath_iff _ _ _).mp searched, found⟩⟩
    · exact ⟨starts, .inl builtin⟩
  · rintro ⟨starts, builtin | ⟨directory, entries, searched, found⟩⟩
    · exact .inr ⟨starts, builtin⟩
    · exact .inl ⟨starts, directory, (mem_searchPath_iff _ _ _).mpr searched, entries, found⟩

theorem commandsStarting_ordered (source : PathSource) (around : Surroundings) (start : Text) :
    NameSet.Ordered (source.commandsStarting around start) :=
  NameSet.ofList_ordered _

theorem commandsStarting_append (source : PathSource) (around : Surroundings) (start more : Text) :
    source.commandsStarting around (start ++ more) =
      (source.commandsStarting around start).filter ((start ++ more).isPrefixOf ·) := by
  apply NameSet.Ordered.eq_of_mem_iff (commandsStarting_ordered source around (start ++ more))
  · exact (commandsStarting_ordered source around start).filter _
  · intro name
    rw [List.mem_filter, List.isPrefixOf_iff_prefix, mem_commandsStarting, mem_commandsStarting]
    constructor
    · rintro ⟨starts, known⟩
      exact ⟨⟨(List.prefix_append start more).trans starts, known⟩, starts⟩
    · rintro ⟨⟨-, known⟩, starts⟩
      exact ⟨starts, known⟩

/-- Directories that are searched in addition can only add names. -/
theorem commandsStarting_subset {source other : PathSource} {around changed : Surroundings}
    (alike : changed.files = around.files)
    (more : ∀ directory, source.Searches around directory → other.Searches changed directory)
    (start : Text) :
    source.commandsStarting around start ⊆ other.commandsStarting changed start := by
  intro name offered
  rw [mem_commandsStarting] at offered ⊢
  obtain ⟨starts, builtin | ⟨directory, entries, searched, found⟩⟩ := offered
  · exact ⟨starts, .inl builtin⟩
  · refine ⟨starts, .inr ⟨directory, entries, more directory searched, ?_⟩⟩
    rw [alike]
    exact found

theorem commandsStarting_congr {source other : PathSource} {around changed : Surroundings}
    (alike : changed.files = around.files)
    (same : ∀ directory, source.Searches around directory ↔ other.Searches changed directory)
    (start : Text) :
    source.commandsStarting around start = other.commandsStarting changed start := by
  apply NameSet.Ordered.eq_of_mem_iff (commandsStarting_ordered source around start)
    (commandsStarting_ordered other changed start)
  intro name
  constructor
  · intro offered
    exact commandsStarting_subset alike (fun directory => (same directory).mp) start offered
  · intro offered
    exact commandsStarting_subset alike.symm (fun directory => (same directory).mpr) start offered

/-- The names offered for a beginning, among whatever files, are the builtins and the executable files in the
searched directories that can be listed, in the order of their bytes. So a longer beginning leaves those
of the shorter one that have it. Only the set of the entries of the PATH value counts, empty ones left out:
their order and repetitions make no difference, and a value with more entries offers no name less. -/
theorem commandsStarting_narrows (source other : PathSource) (around changed : Surroundings)
    (alike : changed.files = around.files) (start more : Text) :
    (∀ name, name ∈ source.commandsStarting around start ↔
        start <+: name ∧ ((∃ builtin : Builtin, builtin.name = name) ∨
          ∃ directory entries, source.Searches around directory ∧
            around.files.list directory = some entries ∧ Utf8.encode name ∈ entries ∧
            around.files.isExecutable (Path.join directory (Utf8.encode name)) = true)) ∧
      NameSet.Ordered (source.commandsStarting around start) ∧
      source.commandsStarting around (start ++ more) =
        (source.commandsStarting around start).filter ((start ++ more).isPrefixOf ·) ∧
      ((∀ directory, source.Searches around directory ↔ other.Searches changed directory) →
        source.commandsStarting around start = other.commandsStarting changed start) ∧
      ((∀ directory, source.Searches around directory → other.Searches changed directory) →
        source.commandsStarting around start ⊆ other.commandsStarting changed start) := by
  refine ⟨mem_commandsStarting source around start, commandsStarting_ordered source around start,
    commandsStarting_append source around start more, ?_, ?_⟩
  · intro same
    exact commandsStarting_congr alike same start
  · intro wider
    exact commandsStarting_subset alike wider start

/-- A directory with one program in it. No other can be listed. -/
def binOnly : Files where
  kind path := if path = Utf8.encode "/bin/ex".toList then some (.regular true) else none
  list directory :=
    if directory = Utf8.encode "/bin".toList then some [Utf8.encode "ex".toList] else none

/-- Two directories, one of them twice and with an empty entry before it, are as good as the two the other
way round, and better than the one that cannot be listed. -/
theorem commandsStarting_narrows_binOnly :
    let around : Surroundings := ⟨some (Utf8.encode "/opt::/bin:/bin".toList), binOnly⟩
    let swapped : PathSource := .fixed (Utf8.encode "/bin:/opt".toList)
    let poorer : PathSource := .fixed (Utf8.encode "/opt".toList)
    let offered := PathSource.environment.commandsStarting around "e".toList
    "ex".toList ∈ offered ∧
      PathSource.environment.commandsStarting around "ex".toList =
        offered.filter ("ex".toList.isPrefixOf ·) ∧
      offered = swapped.commandsStarting around "e".toList ∧
      poorer.commandsStarting around "e".toList ⊆ offered := by
  intro around swapped poorer offered
  have directories : (PathSource.environment.searchPath around).directories =
      [Utf8.encode "/opt".toList, Utf8.encode "/bin".toList, Utf8.encode "/bin".toList] := by decide
  have inSwapped : (swapped.searchPath around).directories =
      [Utf8.encode "/bin".toList, Utf8.encode "/opt".toList] := by decide
  have inPoorer : (poorer.searchPath around).directories = [Utf8.encode "/opt".toList] := by decide
  obtain ⟨members, -, narrowed, reordered, -⟩ :=
    commandsStarting_narrows .environment swapped around around rfl "e".toList "x".toList
  obtain ⟨-, -, -, -, widened⟩ :=
    commandsStarting_narrows poorer .environment around around rfl "e".toList []
  refine ⟨(members _).mpr ⟨by decide, .inr ?_⟩, narrowed, reordered ?_, widened ?_⟩
  · refine ⟨Utf8.encode "/bin".toList, [Utf8.encode "ex".toList], ?_, by decide, by decide, by decide⟩
    rw [← mem_searchPath_iff, directories]
    simp
  · intro directory
    rw [← mem_searchPath_iff, ← mem_searchPath_iff, directories, inSwapped]
    simp [or_comm]
  · intro directory
    rw [← mem_searchPath_iff, ← mem_searchPath_iff, directories, inPoorer, List.mem_singleton]
    intro opt
    exact opt ▸ List.mem_cons_self

end PathSource

end CommandShell
