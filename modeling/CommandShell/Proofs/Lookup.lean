import CommandShell.Proofs.SearchPath.Order
import CommandShell.Proofs.Utf8
import CommandShell.Resolver

/-!
What a command name stands for, told from the PATH value itself: a builtin by its name, else the first
entry under which the name is an executable file.
-/

set_option autoImplicit false

namespace CommandShell

open SearchPath (colon)

namespace Path

/-- What is put between a directory and a name: a slash, unless the directory brings its own. -/
def between (directory : Path) : Bytes :=
  if directory.getLast? = some slash then [] else [slash]

theorem join_of_filled {directory : Path} (filled : directory ≠ []) (name : Bytes) :
    join directory name = directory ++ between directory ++ name := by
  unfold join between
  by_cases ends : directory.getLast? = some slash
  · simp [ends]
  · simp [ends, filled]

/-- A name below a directory is never a bare name. -/
theorem slash_mem_join {directory : Path} (filled : directory ≠ []) (name : Bytes) :
    slash ∈ join directory name := by
  rw [join_of_filled filled, between]
  split
  next ends =>
    have last := List.mem_of_getLast? ends
    simp [last]
  next => simp

theorem slash_mem_encode (t : Text) : slash ∈ Utf8.encode t ↔ '/' ∈ t :=
  Utf8.mem_encode_iff (by decide) t

theorem slash_mem_of_rooted {name : Text} (rooted : name.head? = some '/') :
    slash ∈ Utf8.encode name :=
  (slash_mem_encode name).mpr (List.mem_of_head? rooted)

/-- Every slash of a path is shown. -/
theorem slash_mem_display {path : Path} (member : slash ∈ path) : '/' ∈ path.display :=
  Utf8.mem_lossy_of_mem (by decide) member

/-- Paths that are shown alike are the same, unless something in them could not be shown. -/
theorem eq_of_display_eq {path other : Path} (clean : '\uFFFD' ∉ other.display)
    (same : path.display = other.display) : path = other := by
  have shown := Utf8.encode_lossy clean
  have alike : '\uFFFD' ∉ Utf8.lossy path := by
    intro member
    exact clean (same ▸ member)
  rw [← Utf8.encode_lossy alike, ← shown]
  exact congrArg Utf8.encode same

end Path

namespace Builtin

theorem find?_eq_some_iff (name : Text) (builtin : Builtin) :
    find? name = some builtin ↔ builtin.name = name := by
  constructor
  · intro found
    have named := List.find?_some found
    simpa using named
  · rintro rfl
    exact find?_name builtin

theorem find?_eq_none_iff (name : Text) :
    find? name = none ↔ ∀ builtin : Builtin, builtin.name ≠ name := by
  constructor
  · intro missing builtin named
    rw [(find?_eq_some_iff name builtin).mpr named] at missing
    cases missing
  · intro none_named
    cases found : find? name with
    | none => rfl
    | some builtin => exact absurd ((find?_eq_some_iff name builtin).mp found) (none_named builtin)

/-- No builtin has a name that starts at the root. -/
theorem find?_of_rooted {name : Text} (rooted : name.head? = some '/') : find? name = none := by
  rw [find?_eq_none_iff]
  rintro builtin rfl
  cases builtin <;> simp [Builtin.name] at rooted

end Builtin

/-- The first entry of a PATH value under which a name is an executable file. Empty entries do not
count. -/
structure FirstMatch (isExecutable : Path → Bool) (value : Bytes) (name : Bytes) (program : Path)
    (earlier : List Bytes) (directory : Bytes) (later : List Bytes) : Prop where
  entries : [colon].intercalate (earlier ++ directory :: later) = value
  uncut : ∀ entry ∈ earlier ++ directory :: later, colon ∉ entry
  filled : directory ≠ []
  joined : program = directory ++ Path.between directory ++ name
  executable : isExecutable program = true
  first : ∀ entry ∈ earlier, entry ≠ [] →
    isExecutable (entry ++ Path.between entry ++ name) = false

theorem FirstMatch.slash_mem {isExecutable : Path → Bool} {value name : Bytes} {program : Path}
    {earlier : List Bytes} {directory : Bytes} {later : List Bytes}
    (found : FirstMatch isExecutable value name program earlier directory later) :
    Path.slash ∈ program := by
  rw [found.joined, ← Path.join_of_filled found.filled]
  exact Path.slash_mem_join found.filled name

namespace PathSource

/-- The PATH value that lookups go by, if there is one. -/
def value? (source : PathSource) (around : Surroundings) : Option Bytes :=
  match source with
  | .environment => around.path
  | .fixed value => some value

theorem searchPath_eq (source : PathSource) (around : Surroundings) :
    source.searchPath around = ((source.value? around).map SearchPath.parse).getD .empty := by
  cases source with
  | environment => rfl
  | fixed value => rfl

/-- Lookups go through all entries of the PATH value, and pass over empty ones. -/
theorem findInPath_eq (source : PathSource) (around : Surroundings) (name : Text) :
    source.findInPath around name =
      if name = [] ∨ name.head? = some '/' then none
      else (source.value? around).bind fun value =>
        ((stretches (· == colon) value).find? fun entry =>
            !entry.isEmpty && around.files.isExecutable (Path.join entry (Utf8.encode name))).map
          fun entry => Path.join entry (Utf8.encode name) := by
  rw [findInPath, searchPath_eq]
  by_cases barred : name = [] ∨ name.head? = some '/'
  · have unsearched : ¬ SearchPath.IsSearched name :=
      fun searched => barred.elim searched.1 searched.2
    rw [if_pos barred, SearchPath.find_of_not_searched _ unsearched]
  · have searched : SearchPath.IsSearched name := not_or.mp barred
    rw [if_neg barred]
    cases source.value? around with
    | none => rw [SearchPath.find_of_searched _ searched]; rfl
    | some value => exact SearchPath.find_parse value searched

theorem findInPath_eq_some_iff (source : PathSource) (around : Surroundings) (name : Text)
    (program : Path) :
    source.findInPath around name = some program ↔
      name ≠ [] ∧ name.head? ≠ some '/' ∧ ∃ value earlier directory later,
        source.value? around = some value ∧
          FirstMatch around.files.isExecutable value (Utf8.encode name) program earlier directory
            later := by
  rw [findInPath_eq]
  by_cases barred : name = [] ∨ name.head? = some '/'
  · rw [if_pos barred]
    constructor
    · intro impossible
      cases impossible
    · rintro ⟨filled, unrooted, -⟩
      exact absurd barred (not_or.mpr ⟨filled, unrooted⟩)
  · obtain ⟨filled, unrooted⟩ := not_or.mp barred
    rw [if_neg barred]
    simp only [Option.bind_eq_some_iff, Option.map_eq_some_iff, List.find?_eq_some_iff_append]
    constructor
    · rintro ⟨value, set, directory, ⟨found, earlier, later, split, passed⟩, rfl⟩
      obtain ⟨nonempty, executable⟩ : directory ≠ [] ∧ _ = true := by simpa using found
      obtain ⟨joined, free⟩ := intercalate_stretches colon value
      rw [split] at joined free
      refine ⟨filled, unrooted, value, earlier, directory, later, set, joined, free, nonempty,
        Path.join_of_filled nonempty _, executable, ?_⟩
      intro entry member kept
      have missed := passed entry member
      rw [← Path.join_of_filled kept]
      simpa [kept] using missed
    · rintro ⟨-, -, value, earlier, directory, later, set, found⟩
      have split := stretches_intercalate colon (earlier ++ directory :: later) (by simp) found.uncut
      rw [found.entries] at split
      have joined := Path.join_of_filled found.filled (Utf8.encode name)
      refine ⟨value, set, directory, ⟨?_, earlier, later, split, ?_⟩, ?_⟩
      · have executable := found.executable
        rw [found.joined, ← joined] at executable
        simp [found.filled, executable]
      · intro entry member
        by_cases empty : entry = []
        · simp [empty]
        · have missed := found.first entry member empty
          rw [← Path.join_of_filled empty] at missed
          simp [missed]
      · rw [joined, found.joined]

/-- The builtins first, then the files. -/
theorem resolve_eq (source : PathSource) (around : Surroundings) (name : Text) :
    source.resolve around name =
      match Builtin.find? name, source.findInPath around name with
      | some builtin, _ => .builtin builtin
      | none, some path => .executable path
      | none, none => .notFound := by
  rw [resolve]
  by_cases empty : name = []
  · subst empty
    have missing : source.findInPath around [] = none := by rw [findInPath_eq, if_pos (.inl rfl)]
    rw [missing]
    rfl
  · rw [if_neg (by simpa using empty)]
    cases Builtin.find? name with
    | some builtin => rfl
    | none => cases source.findInPath around name <;> rfl

theorem resolve_eq_builtin_iff (source : PathSource) (around : Surroundings) (name : Text)
    (builtin : Builtin) : source.resolve around name = .builtin builtin ↔ builtin.name = name := by
  rw [← Builtin.find?_eq_some_iff, resolve_eq]
  cases Builtin.find? name with
  | some other => simp
  | none => cases source.findInPath around name <;> simp

theorem resolve_eq_executable_iff (source : PathSource) (around : Surroundings) (name : Text)
    (path : Path) :
    source.resolve around name = .executable path ↔
      (∀ builtin : Builtin, builtin.name ≠ name) ∧ source.findInPath around name = some path := by
  rw [← Builtin.find?_eq_none_iff, resolve_eq]
  cases Builtin.find? name with
  | some other => simp
  | none => cases source.findInPath around name <;> simp

theorem resolve_eq_notFound_iff (source : PathSource) (around : Surroundings) (name : Text) :
    source.resolve around name = .notFound ↔
      (∀ builtin : Builtin, builtin.name ≠ name) ∧ source.findInPath around name = none := by
  rw [← Builtin.find?_eq_none_iff, resolve_eq]
  cases Builtin.find? name with
  | some other => simp
  | none => cases source.findInPath around name <;> simp

theorem resolve_of_rooted (source : PathSource) (around : Surroundings) {name : Text}
    (rooted : name.head? = some '/') : source.resolve around name = .notFound := by
  rw [resolve_eq_notFound_iff, ← Builtin.find?_eq_none_iff, findInPath_eq, if_pos (.inr rooted)]
  exact ⟨Builtin.find?_of_rooted rooted, rfl⟩

theorem slash_mem_of_resolve {source : PathSource} {around : Surroundings} {name : Text} {path : Path}
    (resolved : source.resolve around name = .executable path) : Path.slash ∈ path := by
  obtain ⟨-, found⟩ := (resolve_eq_executable_iff _ _ _ _).mp resolved
  obtain ⟨-, -, _, _, _, _, -, matched⟩ := (findInPath_eq_some_iff _ _ _ _).mp found
  exact matched.slash_mem

end PathSource

end CommandShell
