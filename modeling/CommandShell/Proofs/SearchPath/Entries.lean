import CommandShell.Proofs.Pieces
import CommandShell.SearchPath

/-!
The directories of a PATH value: cutting at colons undoes joining by colons, and only empty entries and
colons are lost on the way.
-/

set_option autoImplicit false

namespace CommandShell.SearchPath

/-- Directories that can be written into a PATH value and found there again. -/
def IsWritable (directory : Path) : Prop := directory ≠ [] ∧ colon ∉ directory

theorem isWritable_of_mem_parse {value : Bytes} {directory : Path}
    (member : directory ∈ (parse value).directories) : IsWritable directory := by
  have whole := whole_of_mem_pieces (· == colon) value directory member
  refine ⟨ne_nil_of_mem_pieces (· == colon) value directory member, ?_⟩
  intro within
  have kept := whole colon within
  rw [beq_self_eq_true] at kept
  cases kept

/-- The entries of a PATH value that hold something are its directories, in their order. -/
theorem parse_joined (entries : List Bytes) (free : ∀ entry ∈ entries, colon ∉ entry) :
    (parse ([colon].intercalate entries)).directories = entries.filter (!·.isEmpty) :=
  pieces_joined (· == colon) colon (beq_self_eq_true colon) entries
    fun entry member => whole_of_not_mem (free entry member)

theorem parse_joined_writable (directories : List Path)
    (writable : ∀ directory ∈ directories, IsWritable directory) :
    (parse ([colon].intercalate directories)).directories = directories := by
  have filled : ∀ directory ∈ directories, (!directory.isEmpty) = true := by
    intro directory member
    simpa using (writable directory member).1
  rw [parse_joined directories fun directory member => (writable directory member).2]
  exact List.filter_eq_self.mpr filled

/-- All that a PATH value holds beside colons is in its directories. -/
theorem flatten_parse (value : Bytes) :
    (parse value).directories.flatten = value.filter (· ≠ colon) := by
  have dropped := flatten_pieces (· == colon) value
  rw [parse, dropped]
  congr 1
  funext b
  by_cases separates : b = colon <;> simp [separates]

/-- A PATH value has entries, and what is left of it is those that hold something. -/
theorem exists_entries (value : Bytes) :
    ∃ entries : List Bytes, (∀ entry ∈ entries, colon ∉ entry) ∧ [colon].intercalate entries = value ∧
      [colon].intercalate (parse value).directories =
        [colon].intercalate (entries.filter (!·.isEmpty)) := by
  obtain ⟨joined, free⟩ := intercalate_stretches colon value
  refine ⟨stretches (· == colon) value, free, joined, ?_⟩
  have kept := parse_joined (stretches (· == colon) value) free
  rw [joined] at kept
  rw [kept]

/-- A change of bytes that makes no colon and spares all there are changes the directories alike. -/
theorem parse_map (change : UInt8 → UInt8) (spares : ∀ b, change b = colon ↔ b = colon)
    (value : Bytes) :
    (parse (value.map change)).directories = (parse value).directories.map (List.map change) := by
  have same : (fun b => change b == colon) = (· == colon) := by
    funext b
    rw [Bool.eq_iff_iff, beq_iff_eq, beq_iff_eq]
    exact spares b
  have cut := pieces_map (· == colon) change value
  rw [same] at cut
  exact cut

/-- A colon between two PATH values puts their directories one behind the other. The directories of a value
are writable, and joined by colons they are the value without its empty entries; writable directories joined
by colons are found again as they were. Colons apart, each byte is kept in its place, whatever it is:
directories change with the bytes of the value as long as colons stay where they are. -/
theorem parse_homomorphism (front back value : Bytes) :
    (parse (front ++ colon :: back)).directories =
        (parse front).directories ++ (parse back).directories ∧
      (∀ directory ∈ (parse value).directories, IsWritable directory) ∧
      (parse value).directories.flatten = value.filter (· ≠ colon) ∧
      (∃ entries : List Bytes, (∀ entry ∈ entries, colon ∉ entry) ∧
        [colon].intercalate entries = value ∧
        [colon].intercalate (parse value).directories =
          [colon].intercalate (entries.filter (!·.isEmpty))) ∧
      (∀ entries : List Bytes, (∀ entry ∈ entries, colon ∉ entry) →
        (parse ([colon].intercalate entries)).directories = entries.filter (!·.isEmpty)) ∧
      (∀ directories : List Path, (∀ directory ∈ directories, IsWritable directory) →
        (parse ([colon].intercalate directories)).directories = directories) ∧
      (∀ change : UInt8 → UInt8, (∀ b, change b = colon ↔ b = colon) →
        (parse (value.map change)).directories =
          (parse value).directories.map (List.map change)) := by
  refine ⟨parse_append front back, ?_, flatten_parse value, exists_entries value, parse_joined,
    parse_joined_writable, ?_⟩
  · intro directory member
    exact isWritable_of_mem_parse member
  · intro change spares
    exact parse_map change spares value

/-- Empty entries at both ends and at the seam, a byte that is no text, a quote and a backslash. -/
theorem parse_homomorphism_odd :
    let odd : Bytes := [0xFF, 0x22]
    let plain : Bytes := [0x5C]
    let shown : UInt8 → UInt8 := fun b => if b = colon then colon else 0x61
    (∀ b, shown b = colon ↔ b = colon) ∧
      (∀ directory ∈ [odd, plain], IsWritable directory) ∧
      (parse ([colon].intercalate [odd, plain])).directories = [odd, plain] ∧
      (∀ entry ∈ [[], odd, [], plain, []], colon ∉ entry) ∧
      (parse ([colon].intercalate [[], odd, [], plain, []])).directories = [odd, plain] ∧
      (parse (([colon].intercalate [odd, plain]).map shown)).directories = [[0x61, 0x61], [0x61]] ∧
      (parse (odd ++ [colon] ++ colon :: plain)).directories = [odd, plain] := by
  intro odd plain shown
  have spares : ∀ b, shown b = colon ↔ b = colon := by
    intro b
    by_cases separates : b = colon
    · simp [shown, separates]
    · have kept : shown b = 0x61 := if_neg separates
      rw [kept]
      exact iff_of_false (by decide) separates
  have writable : ∀ directory ∈ [odd, plain], IsWritable directory := by
    unfold IsWritable
    decide
  have free : ∀ entry ∈ [[], odd, [], plain, []], colon ∉ entry := by decide
  obtain ⟨seam, -, -, -, entries, kept, changed⟩ :=
    parse_homomorphism (odd ++ [colon]) plain ([colon].intercalate [odd, plain])
  refine ⟨spares, writable, kept _ writable, free, ?_, ?_, ?_⟩
  · rw [entries _ free]
    rfl
  · rw [changed shown spares, kept _ writable]
    decide
  · rw [seam]
    decide

end CommandShell.SearchPath
