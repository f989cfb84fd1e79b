import CommandShell.Proofs.Pieces
import CommandShell.SearchPath

/-!
The order in which directories are searched: the first that has the name decides, so a search goes on where
another one ends, and entries that come again are of no use.
-/

set_option autoImplicit false

namespace CommandShell

/-- What a list is searched for is found where it stands first, repetitions or not. -/
theorem find?_eraseDups {α : Type} [BEq α] [LawfulBEq α] (wanted : α → Bool) :
    ∀ as : List α, as.eraseDups.find? wanted = as.find? wanted
  | [] => rfl
  | a :: rest => by
    have shorter : (rest.filter (fun b => !b == a)).length < (a :: rest).length :=
      Nat.lt_succ_of_le (List.length_filter_le _ _)
    have later := find?_eraseDups wanted (rest.filter (fun b => !b == a))
    rw [List.eraseDups_cons, List.find?_cons, List.find?_cons]
    cases found : wanted a with
    | true => rfl
    | false =>
      -- Only elements that are not wanted were left out of the rest.
      have kept : (rest.filter (fun b => !b == a)).find? wanted = rest.find? wanted := by
        rw [List.find?_filter]
        congr 1
        funext b
        by_cases same : b = a
        · simp [same, found]
        · simp [same]
      exact later.trans kept
termination_by as => as.length
decreasing_by exact shorter

namespace SearchPath

variable (isExecutable : Path → Bool) (name : Text)

/-- Names that are looked for in directories: those that are not empty and do not start at the root. -/
def IsSearched : Prop := name ≠ [] ∧ name.head? ≠ some '/'

/-- The name below a directory is the program, and the name is executable there but below none of the
directories before. -/
structure FirstAt (directories : List Path) (index : Nat) (program : Path) : Prop where
  joined : ∃ directory, directories[index]? = some directory ∧
    program = Path.join directory (Utf8.encode name)
  executable : isExecutable program = true
  passed : ∀ earlier < index, ∀ directory, directories[earlier]? = some directory →
    isExecutable (Path.join directory (Utf8.encode name)) = false

variable {isExecutable name}

theorem find_of_not_searched (search : SearchPath) (unsearched : ¬ IsSearched name) :
    search.find isExecutable name = none := by
  rw [find, if_pos]
  by_cases empty : name = []
  · simp [empty]
  · by_cases rooted : name.head? = some '/'
    · simp [rooted]
    · exact absurd ⟨empty, rooted⟩ unsearched

theorem find_of_searched (search : SearchPath) (searched : IsSearched name) :
    search.find isExecutable name =
      (search.directories.map fun directory => Path.join directory (Utf8.encode name)).find?
        isExecutable := by
  obtain ⟨filled, unrooted⟩ := searched
  rw [find, if_neg]
  simp [filled, unrooted]

theorem find_eq_some_iff (search : SearchPath) (program : Path) :
    search.find isExecutable name = some program ↔
      IsSearched name ∧ ∃ index, FirstAt isExecutable name search.directories index program := by
  by_cases searched : IsSearched name
  · rw [find_of_searched search searched, List.find?_eq_some_iff_getElem]
    constructor
    · rintro ⟨executable, index, inside, found, passed⟩
      have within : index < search.directories.length := by simpa using inside
      refine ⟨searched, index, ⟨_, List.getElem?_eq_getElem within, ?_⟩, executable, ?_⟩
      · rw [← found, List.getElem_map]
      · intro earlier before directory listed
        obtain ⟨_, same⟩ := List.getElem?_eq_some_iff.mp listed
        have missed := passed earlier before
        rw [List.getElem_map, same] at missed
        simpa using missed
    · rintro ⟨-, index, ⟨directory, listed, joined⟩, executable, passed⟩
      obtain ⟨within, same⟩ := List.getElem?_eq_some_iff.mp listed
      refine ⟨executable, index, by simpa using within, ?_, ?_⟩
      · rw [List.getElem_map, same, joined]
      · intro earlier before
        have missed := passed earlier before _ (List.getElem?_eq_getElem (by omega))
        rw [List.getElem_map, missed]
        rfl
  · rw [find_of_not_searched search searched]
    constructor
    · intro impossible
      cases impossible
    · intro found
      exact absurd found.1 searched

theorem find_eq_none_iff (search : SearchPath) :
    search.find isExecutable name = none ↔
      ¬ (IsSearched name ∧
        ∃ index program, FirstAt isExecutable name search.directories index program) := by
  constructor
  · rintro missing ⟨searched, index, program, first⟩
    have found := (find_eq_some_iff search program).mpr ⟨searched, index, first⟩
    rw [missing] at found
    cases found
  · intro nowhere
    cases found : search.find isExecutable name with
    | none => rfl
    | some program =>
      obtain ⟨searched, index, first⟩ := (find_eq_some_iff search program).mp found
      exact absurd ⟨searched, index, program, first⟩ nowhere

/-- Directories behind others are searched only if the name is below none of those. -/
theorem find_append (first second : List Path) :
    (SearchPath.mk (first ++ second)).find isExecutable name =
      ((SearchPath.mk first).find isExecutable name).or
        ((SearchPath.mk second).find isExecutable name) := by
  by_cases searched : IsSearched name
  · rw [find_of_searched _ searched, find_of_searched _ searched, find_of_searched _ searched,
      List.map_append, List.find?_append]
  · rw [find_of_not_searched _ searched, find_of_not_searched _ searched,
      find_of_not_searched _ searched]
    rfl

theorem find_parse_append (front back : Bytes) :
    (parse (front ++ colon :: back)).find isExecutable name =
      ((parse front).find isExecutable name).or ((parse back).find isExecutable name) := by
  have split := parse_append front back
  have joined : parse (front ++ colon :: back) =
      ⟨(parse front).directories ++ (parse back).directories⟩ := by
    rw [← split]
  rw [joined, find_append]

/-- Searching the directories of a PATH value is searching its entries, empty ones passed over. -/
theorem find_parse (value : Bytes) (searched : IsSearched name) :
    (parse value).find isExecutable name =
      ((stretches (· == colon) value).find? fun entry =>
          !entry.isEmpty && isExecutable (Path.join entry (Utf8.encode name))).map
        fun entry => Path.join entry (Utf8.encode name) := by
  rw [find_of_searched _ searched, parse, pieces, List.find?_map, List.find?_filter]
  congr 2
  funext entry
  cases entry <;> simp

theorem find_parse_joined (entries : List Bytes) (filled : entries ≠ [])
    (free : ∀ entry ∈ entries, colon ∉ entry) (searched : IsSearched name) :
    (parse ([colon].intercalate entries)).find isExecutable name =
      (entries.find? fun entry =>
          !entry.isEmpty && isExecutable (Path.join entry (Utf8.encode name))).map
        fun entry => Path.join entry (Utf8.encode name) := by
  rw [find_parse _ searched, stretches_intercalate colon entries filled free]

/-- An entry that comes again is searched in vain. -/
theorem find_parse_eraseDups (entries : List Bytes) (filled : entries ≠ [])
    (free : ∀ entry ∈ entries, colon ∉ entry) :
    (parse ([colon].intercalate entries.eraseDups)).find isExecutable name =
      (parse ([colon].intercalate entries)).find isExecutable name := by
  by_cases searched : IsSearched name
  · have filledOnce : entries.eraseDups ≠ [] := by
      obtain ⟨entry, member⟩ := List.exists_mem_of_ne_nil entries filled
      exact List.ne_nil_of_mem (List.mem_eraseDups.mpr member)
    have freeOnce : ∀ entry ∈ entries.eraseDups, colon ∉ entry :=
      fun entry member => free entry (List.mem_eraseDups.mp member)
    rw [find_parse_joined _ filledOnce freeOnce searched, find_parse_joined _ filled free searched,
      find?_eraseDups]
  · rw [find_of_not_searched _ searched, find_of_not_searched _ searched]

/-- A name is found at the first of the directories below which it is executable, and not at all if there is
none, or if it is empty or starts at the root. So a colon between two PATH values makes the second count
only where the first has nothing, and a PATH value can do without the entries that equal an earlier
one. -/
theorem find_first_match (search : SearchPath) (isExecutable : Path → Bool) (name : Text)
    (front back value : Bytes) :
    (∀ program, search.find isExecutable name = some program ↔
        IsSearched name ∧
          ∃ index, FirstAt isExecutable name search.directories index program) ∧
      (search.find isExecutable name = none ↔
        ¬ (IsSearched name ∧
          ∃ index program, FirstAt isExecutable name search.directories index program)) ∧
      (parse (front ++ colon :: back)).find isExecutable name =
        ((parse front).find isExecutable name).or ((parse back).find isExecutable name) ∧
      ∃ entries : List Bytes, (∀ entry ∈ entries, colon ∉ entry) ∧
        [colon].intercalate entries = value ∧
        (parse ([colon].intercalate entries.eraseDups)).find isExecutable name =
          (parse value).find isExecutable name := by
  refine ⟨?_, find_eq_none_iff search, find_parse_append front back, ?_⟩
  · intro program
    exact find_eq_some_iff search program
  · obtain ⟨joined, free⟩ := intercalate_stretches colon value
    refine ⟨stretches (· == colon) value, free, joined, ?_⟩
    rw [find_parse_eraseDups _ (stretches_ne_nil (· == colon) value) free, joined]

/-- A program in the second directory is found for its name there, also by a name with a directory in it, but
not for its whole path. -/
theorem find_first_match_second :
    let bin := Utf8.encode "bin".toList
    let usr := Utf8.encode "/usr/".toList
    let tool := Utf8.encode "/usr/a/tool".toList
    let search : SearchPath := ⟨[bin, usr]⟩
    search.find (· == tool) "a/tool".toList = some tool ∧
      search.find (· == tool) "/usr/a/tool".toList = none ∧
      (parse (bin ++ colon :: usr)).find (· == tool) "a/tool".toList =
        ((parse bin).find (· == tool) "a/tool".toList).or
          ((parse usr).find (· == tool) "a/tool".toList) := by
  intro bin usr tool search
  obtain ⟨found, -, seam, -⟩ := find_first_match search (· == tool) "a/tool".toList bin usr []
  obtain ⟨-, missing, -, -⟩ := find_first_match search (· == tool) "/usr/a/tool".toList bin usr []
  refine ⟨(found tool).mpr ⟨⟨by decide, by decide⟩, 1, ⟨usr, rfl, by decide⟩, by decide, ?_⟩,
    missing.mpr fun searched => searched.1.2 rfl, seam⟩
  intro earlier before directory listed
  obtain rfl : earlier = 0 := by omega
  obtain rfl := Option.some.inj listed
  decide

end SearchPath

end CommandShell
