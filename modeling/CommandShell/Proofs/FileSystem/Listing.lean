import CommandShell.FileSystem.Walk
import CommandShell.Proofs.Pieces
import Mathlib.Data.List.Basic

/-!
What a directory lists is what paths through it lead to. Lookups rely on that where they compare a
directory's names with the files that a name leads to in it; a file system kept in memory bears it out.
-/

set_option autoImplicit false

namespace CommandShell

/-- A name that an entry of a directory may have. The directory itself and its parent have names of
their own, under which nothing is listed. -/
def IsEntryName (name : Bytes) : Prop :=
  name ≠ [] ∧ Path.slash ∉ name ∧ name ≠ FileSystem.here ∧ name ≠ FileSystem.above

instance (name : Bytes) : Decidable (IsEntryName name) :=
  inferInstanceAs (Decidable (_ ∧ _ ∧ _ ∧ _))

/-- What a system promises of its directories, given which names exist in which. A directory that can
be listed lists these; what a path through a directory leads to exists in it; and neither the directory
itself nor its parent is a regular file. -/
structure Files.Faithful (files : Files) (present : Path → Bytes → Prop) : Prop where
  listed : ∀ directory entries, files.list directory = some entries →
    ∀ name, name ∈ entries ↔ IsEntryName name ∧ present directory name
  reached : ∀ directory name, directory ≠ [] → IsEntryName name →
    (files.kind (Path.join directory name)).isSome → present directory name
  dots : ∀ directory name, directory ≠ [] → name = FileSystem.here ∨ name = FileSystem.above →
    ∀ executable, files.kind (Path.join directory name) ≠ some (.regular executable)

namespace FileSystem

/-- Every place has names an entry may have, and is in a directory. -/
structure WellFormed (files : FileSystem) : Prop where
  named : ∀ entry ∈ files.entries, ∀ name ∈ entry.1, IsEntryName name
  inside : ∀ entry ∈ files.entries, files.isDirectory entry.1.dropLast = true

/-- Whether a name exists in the directory a path leads to. -/
def Holds (files : FileSystem) (working : Location) (directory : Path) (name : Bytes) : Prop :=
  ∃ place mode, files.reach working directory = .ok (place, .directory mode) ∧
    (files.node? (place ++ [name])).isSome

theorem node?_isSome_iff (files : FileSystem) (place : Location) (filled : place ≠ []) :
    (files.node? place).isSome ↔ ∃ entry ∈ files.entries, entry.1 = place := by
  simp [node?, filled, List.find?_isSome]

theorem mem_children_iff (files : FileSystem) (place : Location) (name : Bytes) :
    name ∈ files.children place ↔ (files.node? (place ++ [name])).isSome := by
  rw [node?_isSome_iff _ _ (by simp), children, List.mem_filterMap]
  constructor
  · rintro ⟨entry, member, found⟩
    obtain ⟨other, node⟩ := entry
    simp only at found
    by_cases inside : other.dropLast = place
    · rw [if_pos inside] at found
      refine ⟨_, member, ?_⟩
      rw [← inside, List.dropLast_append_getLast? name found]
    · rw [if_neg inside] at found
      cases found
  · rintro ⟨entry, member, same⟩
    obtain ⟨other, node⟩ := entry
    simp only at same
    subst same
    exact ⟨_, member, by simp⟩

/-- Paths that lead through links, to places where something is. -/
def strictly : Ending := ⟨true, false⟩

/-- Names that lead somewhere lead there whatever follows, which is then followed from there with the
links that are left; or they lead nowhere, whatever follows. The cases are those of following names:
each step does the same with other names behind. -/
theorem walk_front (files : FileSystem) (budget : Nat) (place : Location) (front : List Bytes) :
    (∃ inside left, ∀ back, walk files strictly budget place (front ++ back) =
        walk files strictly left inside back) ∨
      ∃ fault, ∀ back, walk files strictly budget place (front ++ back) = .error fault := by
  induction budget, place, front using walk.induct files strictly with
  | case1 budget place => exact .inl ⟨place, budget, fun _ => rfl⟩
  | case2 budget place name rest no =>
    refine .inr ⟨.notDirectory, fun back => ?_⟩
    rw [List.cons_append, walk, if_pos no]
  | case3 budget place rest isDirectory ih =>
    have step (others : List Bytes) : walk files strictly budget place (here :: others) =
        walk files strictly budget place others := by
      rw [walk, if_neg isDirectory, if_pos rfl]
    simpa only [List.cons_append, step] using ih
  | case4 budget place rest isDirectory other ih =>
    have step (others : List Bytes) : walk files strictly budget place (above :: others) =
        walk files strictly budget place.dropLast others := by
      rw [walk, if_neg isDirectory, if_neg other, if_pos rfl]
    simpa only [List.cons_append, step] using ih
  | case5 budget place name rest isDirectory notHere notAbove long =>
    refine .inr ⟨.nameTooLong, fun back => ?_⟩
    rw [List.cons_append, walk, if_neg isDirectory, if_neg notHere, if_neg notAbove, if_pos long]
  | case6 budget place name rest isDirectory notHere notAbove short missing allowed =>
    simp [strictly] at allowed
  | case7 budget place name rest isDirectory notHere notAbove short missing refused =>
    refine .inr ⟨.noEntry, fun back => ?_⟩
    rw [List.cons_append, walk, if_neg isDirectory, if_neg notHere, if_neg notAbove, if_neg short,
      missing]
    simp [strictly]
  | case8 budget place name rest isDirectory notHere notAbove short target linked kept =>
    simp [strictly] at kept
  | case9 place name rest isDirectory notHere notAbove short target linked followed =>
    refine .inr ⟨.tooManyLinks, fun back => ?_⟩
    rw [List.cons_append, walk, if_neg isDirectory, if_neg notHere, if_neg notAbove, if_neg short,
      linked]
    simp [strictly]
  | case10 place name rest isDirectory notHere notAbove short target linked followed budget ih =>
    have step (others : List Bytes) :
        walk files strictly (budget + 1) place (name :: others) =
          walk files strictly budget (if target.isAbsolute then [] else place)
            (names target ++ others) := by
      rw [walk, if_neg isDirectory, if_neg notHere, if_neg notAbove, if_neg short, linked]
      simp [strictly]
    simpa only [List.cons_append, step, dite_eq_ite, List.append_assoc] using ih
  | case11 budget place name rest isDirectory notHere notAbove short node notLink found ih =>
    have step (others : List Bytes) :
        walk files strictly budget place (name :: others) =
          walk files strictly budget (place ++ [name]) others := by
      rw [walk, if_neg isDirectory, if_neg notHere, if_neg notAbove, if_neg short, found]
      cases node with
      | link target => exact absurd rfl (notLink target)
      | _ => rfl
    simpa only [List.cons_append, step] using ih

/-- One name is followed in a directory, to something there. -/
theorem walk_name (files : FileSystem) (budget : Nat) (place final : Location) (name : Bytes)
    (named : IsEntryName name)
    (reached : walk files strictly budget place [name] = .ok final) :
    files.isDirectory place = true ∧ (files.node? (place ++ [name])).isSome = true := by
  obtain ⟨-, -, notHere, notAbove⟩ := named
  rw [walk] at reached
  split at reached
  next => cases reached
  next isDirectory =>
    refine ⟨by simpa using isDirectory, ?_⟩
    split at reached
    next => cases reached
    next =>
      cases found : files.node? (place ++ [name]) with
      | none => simp [found, strictly] at reached
      | some node => rfl

theorem walk_dots (files : FileSystem) (budget : Nat) (place final : Location) (name : Bytes)
    (dots : name = here ∨ name = above)
    (reached : walk files strictly budget place [name] = .ok final) :
    files.isDirectory place = true ∧ (final = place ∨ final = place.dropLast) := by
  rw [walk] at reached
  split at reached
  next => cases reached
  next isDirectory =>
    refine ⟨by simpa using isDirectory, ?_⟩
    rcases dots with rfl | rfl
    · rw [if_pos rfl, walk] at reached
      exact .inl (Except.ok.inj reached).symm
    · rw [if_neg (by decide), if_pos rfl, walk] at reached
      exact .inr (Except.ok.inj reached).symm

/-- A path below a directory, as names: those of the directory, and one more. -/
theorem names_join (directory : Path) (name : Bytes) (named : name ≠ [] ∧ Path.slash ∉ name)
    (filled : directory ≠ []) :
    names (Path.join directory name) = pieces (· == Path.slash) directory ++ [name] := by
  obtain ⟨nonempty, single⟩ := named
  have alone : pieces (· == Path.slash) name = [name] := by
    apply pieces_of_whole _ _ nonempty
    intro b member
    rw [beq_eq_false_iff_ne]
    rintro rfl
    exact single member
  have cut (front : Bytes) :
      names (front ++ Path.slash :: name) = pieces (· == Path.slash) front ++ [name] := by
    have last : (front ++ Path.slash :: name).getLast? ≠ some Path.slash := by
      intro ends
      rw [List.getLast?_append_of_ne_nil _ (List.cons_ne_nil _ _),
        List.getLast?_cons_of_ne_nil nonempty] at ends
      exact single (List.mem_of_getLast? ends)
    rw [names, if_neg last, List.append_nil,
      pieces_append_cons (· == Path.slash) front name Path.slash (beq_self_eq_true _), alone]
  -- A slash at the end of the directory is the one in front of the name.
  by_cases ends : directory.getLast? = some Path.slash
  · have split := List.dropLast_append_getLast? Path.slash ends
    have same : pieces (· == Path.slash) directory.dropLast = pieces (· == Path.slash) directory := by
      conv => rhs; rw [← split]
      rw [pieces_append_cons (· == Path.slash) _ [] Path.slash (beq_self_eq_true _)]
      exact (List.append_nil _).symm
    have joined : Path.join directory name = directory.dropLast ++ Path.slash :: name := by
      conv => lhs; rw [← split]
      simp [Path.join]
    rw [joined, cut, same]
  · have joined : Path.join directory name = directory ++ Path.slash :: name := by
      simp [Path.join, ends, filled]
    rw [joined, cut]

/-- What a path through a directory leads to is reached by one more name, from the place that the path
to the directory leads to, if that is a directory. -/
theorem locate_join (files : FileSystem) (working : Location) (directory : Path) (name : Bytes)
    (place : Location) (named : name ≠ [] ∧ Path.slash ∉ name) (filled : directory ≠ [])
    (located : files.locate strictly working (Path.join directory name) = .ok place) :
    ∃ inside left, walk files strictly left inside [name] = .ok place ∧
      (files.isDirectory inside = true → files.locate strictly working directory = .ok inside) := by
  obtain ⟨between, joined⟩ := Path.join_eq_append directory name
  have sameStart : (Path.join directory name).isAbsolute = directory.isAbsolute := by
    rw [joined, List.append_assoc, Path.isAbsolute, Path.isAbsolute,
      List.head?_append_of_ne_nil _ filled]
  have longer : directory.length ≤ (Path.join directory name).length := by
    rw [joined]
    simp only [List.length_append]
    omega
  have within : directory.contains 0 = true → (Path.join directory name).contains 0 = true := by
    rw [joined]
    simp
    tauto
  rw [locate] at located
  split at located
  next => cases located
  next sound =>
    split at located
    next => cases located
    next short =>
      rw [names_join _ _ named filled, sameStart] at located
      have accepted : files.locate strictly working directory =
          walk files strictly linkLimit (if directory.isAbsolute then [] else working)
            (names directory) := by
        rw [locate, if_neg, if_neg (by omega)]
        intro faulty
        apply sound
        rcases (Bool.or_eq_true _ _).mp faulty with empty | zero
        · exact absurd (List.isEmpty_iff.mp empty) filled
        · rw [within zero, Bool.or_true]
      -- The names of the directory are followed alike on both paths, with the same links left.
      rcases walk_front files linkLimit (if directory.isAbsolute then [] else working)
        (pieces (· == Path.slash) directory) with ⟨inside, left, onward⟩ | ⟨fault, onward⟩
      · rw [onward] at located
        refine ⟨inside, left, located, fun isDirectory => ?_⟩
        rw [accepted, names, onward]
        split
        · rw [walk, if_neg (by simp [isDirectory]), if_pos rfl, walk]
        · rw [walk]
      · rw [onward] at located
        cases located

theorem reach_eq_ok_iff (files : FileSystem) (working : Location) (path : Path) (place : Location)
    (node : Node) :
    files.reach working path = .ok (place, node) ↔
      files.locate strictly working path = .ok place ∧ files.node? place = some node := by
  change (files.locate strictly working path >>= _) = _ ↔ _
  cases files.locate strictly working path with
  | error fault => simp [bind, Except.bind]
  | ok located =>
    simp only [bind, Except.bind, Except.ok.injEq]
    cases found : files.node? located with
    | none =>
      constructor
      · intro impossible
        cases impossible
      · rintro ⟨rfl, some_node⟩
        rw [found] at some_node
        cases some_node
    | some other =>
      simp only [pure, Except.pure, Except.ok.injEq, Prod.mk.injEq]
      constructor
      · rintro ⟨rfl, rfl⟩
        exact ⟨rfl, found⟩
      · rintro ⟨rfl, some_node⟩
        exact ⟨rfl, Option.some.inj (found.symm.trans some_node)⟩

/-- A path leads where its names lead, if it is not too long. -/
theorem reach_of_walk (files : FileSystem) (working : Location) (path : Path) (place : Location)
    (node : Node) (sound : (path.isEmpty || path.contains 0) = false) (short : path.length < pathLimit)
    (walked : walk files strictly linkLimit (if path.isAbsolute then [] else working) (names path) =
      .ok place)
    (there : files.node? place = some node) : files.reach working path = .ok (place, node) := by
  refine (reach_eq_ok_iff _ _ _ _ _).mpr ⟨?_, there⟩
  rw [locate, if_neg (by rw [sound]; exact Bool.false_ne_true), if_neg (Nat.not_le.mpr short)]
  exact walked

theorem isDirectory_iff (files : FileSystem) (place : Location) :
    files.isDirectory place = true ↔ ∃ mode, files.node? place = some (.directory mode) := by
  rw [isDirectory]
  cases files.node? place with
  | none => simp
  | some node => cases node <;> simp [Node.isDirectory]

/-- A directory is itself in a directory; the root is in itself. -/
theorem WellFormed.isDirectory_dropLast {files : FileSystem} (well : files.WellFormed)
    (place : Location) (isDirectory : files.isDirectory place = true) :
    files.isDirectory place.dropLast = true := by
  by_cases root : place = []
  · rw [root]
    rfl
  · obtain ⟨mode, found⟩ := (isDirectory_iff files place).mp isDirectory
    obtain ⟨entry, member, rfl⟩ :=
      (node?_isSome_iff files place root).mp (by rw [found]; rfl)
    exact well.inside entry member

theorem kind_eq_some_iff (files : FileSystem) (working : Location) (path : Path) (kind : FileKind) :
    (files.view working).kind path = some kind ↔
      ∃ place node, files.reach working path = .ok (place, node) ∧ node.kind = kind := by
  simp only [view]
  rcases files.reach working path with fault | ⟨place, node⟩ <;> simp

theorem list_eq_some_iff (files : FileSystem) (working : Location) (path : Path)
    (entries : List Bytes) :
    (files.view working).list path = some entries ↔
      ∃ place mode, files.reach working path = .ok (place, .directory mode) ∧
        files.children place = entries := by
  simp only [view]
  rcases files.reach working path with fault | ⟨place, node⟩
  · simp
  · cases node <;> simp

/-- What is seen of a file system keeps the promises that lookups and listings rely on. -/
theorem view_faithful {files : FileSystem} (well : files.WellFormed) (working : Location) :
    (files.view working).Faithful (files.Holds working) where
  listed directory entries shown name := by
    obtain ⟨place, mode, reached, rfl⟩ := (list_eq_some_iff _ _ _ _).mp shown
    rw [mem_children_iff]
    constructor
    · intro present
      obtain ⟨entry, member, same⟩ := (node?_isSome_iff _ _ (by simp)).mp present
      have named := well.named entry member name (by simp [same])
      exact ⟨named, place, mode, reached, present⟩
    · rintro ⟨-, other, otherMode, otherReached, present⟩
      obtain ⟨rfl, -⟩ := Prod.mk.inj (Except.ok.inj (otherReached.symm.trans reached))
      exact present
  reached directory name filled named shown := by
    obtain ⟨kind, seen⟩ := Option.isSome_iff_exists.mp shown
    obtain ⟨place, node, reached, -⟩ := (kind_eq_some_iff _ _ _ _).mp seen
    obtain ⟨located, -⟩ := (reach_eq_ok_iff _ _ _ _ _).mp reached
    obtain ⟨inside, left, last, through⟩ :=
      locate_join files working directory name place ⟨named.1, named.2.1⟩ filled located
    obtain ⟨isDirectory, present⟩ := walk_name files left inside place name named last
    obtain ⟨mode, found⟩ := (isDirectory_iff files inside).mp isDirectory
    exact ⟨inside, mode, (reach_eq_ok_iff _ _ _ _ _).mpr ⟨through isDirectory, found⟩, present⟩
  dots directory name filled dots executable shown := by
    obtain ⟨place, node, reached, kind⟩ := (kind_eq_some_iff _ _ _ _).mp shown
    obtain ⟨located, found⟩ := (reach_eq_ok_iff _ _ _ _ _).mp reached
    have named : name ≠ [] ∧ Path.slash ∉ name := by rcases dots with rfl | rfl <;> decide
    obtain ⟨inside, left, last, -⟩ :=
      locate_join files working directory name place named filled located
    obtain ⟨isDirectory, ends⟩ := walk_dots files left inside place name dots last
    have stays : files.isDirectory place = true := by
      rcases ends with rfl | rfl
      · exact isDirectory
      · exact well.isDirectory_dropLast inside isDirectory
    obtain ⟨mode, directoryThere⟩ := (isDirectory_iff files place).mp stays
    obtain rfl := Option.some.inj (found.symm.trans directoryThere)
    cases kind

/-- The path of a directory at the root. -/
def binPath : Path := Utf8.encode "/bin/".toList

def binName : Bytes := Utf8.encode "bin".toList

/-- A directory at the root with one file in it. -/
def solitary (name : Bytes) (mode : Mode) : FileSystem :=
  ⟨[([binName], .directory 0o755), ([binName, name], .file mode [])]⟩

section Solitary

variable {name : Bytes} (mode : Mode)

theorem solitary_wellFormed (named : IsEntryName name) : (solitary name mode).WellFormed := by
  constructor
  · intro entry member other within
    have bin : IsEntryName binName := by decide
    simp only [solitary, List.mem_cons, List.not_mem_nil, or_false] at member
    rcases member with rfl | rfl
    · rw [List.mem_singleton.mp within]
      exact bin
    · simp only [List.mem_cons, List.not_mem_nil, or_false] at within
      rcases within with rfl | rfl
      · exact bin
      · exact named
  · intro entry member
    simp only [solitary, List.mem_cons, List.not_mem_nil, or_false] at member
    rcases member with rfl | rfl <;> rfl

theorem list_solitary : ((solitary name mode).view []).list binPath = some [name] := by
  have names : FileSystem.names binPath = [binName, here] := by decide
  have reached : (solitary name mode).reach [] binPath = .ok ([binName], .directory 0o755) := by
    refine reach_of_walk _ _ _ _ _ (by decide) (by decide) ?_ rfl
    rw [names]
    simp +decide [walk, isDirectory, node?, solitary, Node.isDirectory]
  exact (list_eq_some_iff _ _ _ _).mpr ⟨_, _, reached, rfl⟩

theorem kind_solitary (named : IsEntryName name) (clean : 0 ∉ name) (short : name.length ≤ nameLimit) :
    ((solitary name mode).view []).kind (Path.join binPath name) = some (.regular mode.executable) := by
  obtain ⟨nonempty, single, notHere, notAbove⟩ := named
  have joined : Path.join binPath name = binPath ++ name := rfl
  have names : FileSystem.names (Path.join binPath name) = [binName, name] :=
    names_join binPath name ⟨nonempty, single⟩ (by decide)
  refine (kind_eq_some_iff _ _ _ _).mpr ⟨[binName, name], .file mode [], ?_, rfl⟩
  refine reach_of_walk _ _ _ _ _ ?_ ?_ ?_ ?_
  · have front : (0 : UInt8) ∉ binPath := by decide
    rw [joined]
    simp [front, clean, nonempty]
  · have limits : binPath.length + nameLimit < pathLimit := by decide
    rw [joined, List.length_append]
    omega
  · have bin : binName ≠ here ∧ binName ≠ above ∧ ¬ binName.length > nameLimit := by decide
    have rooted : (Path.join binPath name).isAbsolute = true := rfl
    rw [names, if_pos rooted]
    simp [walk, isDirectory, node?, solitary, Node.isDirectory, bin, notHere, notAbove,
      Nat.not_lt.mpr short]
  · simp [node?, solitary]

end Solitary

end FileSystem
end CommandShell
