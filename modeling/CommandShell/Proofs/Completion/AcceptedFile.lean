import CommandShell.Proofs.Completion.CommandWord
import CommandShell.Proofs.FileSystem.Listing

/-!
What becomes of a line whose last word was completed as the name of a file. The completer puts a backslash
before each character that would end a bare word; the parser takes every backslash as it is.
-/

set_option autoImplicit false

namespace CommandShell

namespace FileName

/-- Every character but a backslash survives. -/
theorem mem_unescape {word : Text} {c : Char} (member : c ∈ word) (other : c ≠ '\\') :
    c ∈ unescape word := by
  induction word using unescape.induct with
  | case1 => exact member
  | case2 escaped rest ih =>
    rw [unescape]
    rcases List.mem_cons.mp member with rfl | among
    · exact absurd rfl other
    · rcases List.mem_cons.mp among with rfl | later
      · exact List.mem_cons_self
      · exact List.mem_cons_of_mem _ (ih later)
  | case3 => exact absurd (List.mem_singleton.mp member) other
  | case4 first rest notEscape notLast ih =>
    rw [unescape.eq_4 _ _ notEscape notLast]
    rcases List.mem_cons.mp member with rfl | later
    · exact List.mem_cons_self
    · exact List.mem_cons_of_mem _ (ih later)

/-- The bare word is the end of what was passed on the way back. -/
theorem bareWordFrom_suffix (found : Option Text) (passed before : Text)
    (within : ∀ word ∈ found, word <:+ passed) :
    bareWordFrom found passed before <:+ before.reverse ++ passed := by
  induction before generalizing found passed with
  | nil =>
    cases found with
    | none => exact List.suffix_rfl
    | some word => exact within word rfl
  | cons c before ih =>
    have longer : (c :: before).reverse ++ passed = before.reverse ++ (c :: passed) := by simp
    rw [longer]
    have unfound : ∀ word ∈ (none : Option Text), word <:+ c :: passed := by simp
    cases found with
    | none =>
      rw [bareWordFrom]
      split
      · apply ih
        intro word same
        rw [← Option.some.inj same]
        exact List.suffix_cons c passed
      · exact ih none (c :: passed) unfound
    | some word =>
      rw [bareWordFrom]
      split
      · exact ih none (c :: passed) unfound
      · have inside := (within word rfl).trans (List.suffix_cons c passed)
        exact inside.trans (List.suffix_append before.reverse (c :: passed))

theorem bareWord_suffix (t : Text) : bareWord t <:+ t := by
  have suffix := bareWordFrom_suffix none [] t.reverse (by simp)
  rwa [List.reverse_reverse, List.append_nil] at suffix

theorem splitDirectory_append (word : Text) :
    (splitDirectory word).1 ++ (splitDirectory word).2 = word := by
  have front : (splitDirectory word).1 = word.rdropWhile (· ≠ '/') :=
    take_eq_rdropWhile (fun c => decide (c ≠ '/')) word
  rw [front]
  exact List.rdropWhile_append_rtakeWhile ..

theorem mem_insertCandidate (wanted candidate : Candidate) (others : List Candidate) :
    wanted ∈ insertCandidate candidate others ↔ wanted = candidate ∨ wanted ∈ others := by
  induction others with
  | nil => simp [insertCandidate]
  | cons first rest ih =>
    rw [insertCandidate]
    split
    · rw [List.mem_cons, ih, List.mem_cons]
      tauto
    · rw [List.mem_cons]

theorem mem_foldr_insertCandidate (wanted : Candidate) (found : List Candidate) :
    wanted ∈ found.foldr insertCandidate [] ↔ wanted ∈ found := by
  induction found with
  | nil => exact Iff.rfl
  | cons candidate rest ih => rw [List.foldr_cons, mem_insertCandidate, ih, List.mem_cons]

/-- The path a candidate stands for: the directory it is in, as it was understood, then its name, and a slash
if it is a directory. -/
def denoted (files : Files) (home : Path) (written : Text) (candidate : Candidate) : Text :=
  written ++ candidate.display ++
    (if files.kind (Path.join (directoryPath home written) (Utf8.encode candidate.display)) =
      some .directory then ['/'] else [])

theorem mem_candidates_iff (files : Files) (home : Path) (quoting : Quoting) (word : Text)
    (candidate : Candidate) :
    candidate ∈ candidates files home quoting word ↔
      let directory := directoryPath home (splitDirectory word).1
      let entry := Utf8.encode candidate.display
      (∃ entries, files.list directory = some entries ∧ entry ∈ entries) ∧
        (files.kind (Path.join directory entry)).isSome ∧
        (splitDirectory word).2 <+: candidate.display ∧
        candidate.replacement =
          escape quoting (denoted files home (splitDirectory word).1 candidate) := by
  rcases split : splitDirectory word with ⟨written, start⟩
  simp only [candidates, split, mem_foldr_insertCandidate, List.mem_filterMap]
  constructor
  · rintro ⟨entry, member, found⟩
    split at found
    next name kind decoded known =>
      obtain rfl := (Utf8.decode_eq_some_iff _ _).mp decoded
      split at found
      next starts =>
        obtain rfl := Option.some.inj found
        refine ⟨?_, by rw [known]; rfl, List.isPrefixOf_iff_prefix.mp starts, ?_⟩
        · cases listed : files.list (directoryPath home written) with
          | none => simp [listed] at member
          | some entries =>
            rw [listed] at member
            exact ⟨entries, rfl, member⟩
        · simp only [denoted, known, Option.some.injEq]
      next => cases found
    next => cases found
  · rintro ⟨⟨entries, listed, member⟩, there, starts, replaced⟩
    obtain ⟨kind, known⟩ := Option.isSome_iff_exists.mp there
    refine ⟨Utf8.encode candidate.display, by rw [listed]; exact member, ?_⟩
    have decoded := (Utf8.decode_eq_some_iff _ candidate.display).mpr rfl
    rw [decoded, known]
    simp only [List.isPrefixOf_iff_prefix.mpr starts, ↓reduceIte, Option.some.injEq]
    simp only [denoted, known, Option.some.injEq] at replaced
    rw [← replaced]

/-- No character but a backslash stands before a break. -/
def OnlyBackslashesFirst (path : Text) : Prop :=
  ∀ front c back, path = front ++ c :: back → isBreak c = true → ∀ d ∈ front, d = '\\'

theorem OnlyBackslashesFirst.tail {c : Char} {rest : Text} (only : OnlyBackslashesFirst (c :: rest)) :
    OnlyBackslashesFirst rest := by
  intro front broken back same breaks d member
  exact only (c :: front) broken back (congrArg (c :: ·) same) breaks d (List.mem_cons_of_mem c member)

theorem OnlyBackslashesFirst.head {c : Char} {rest : Text} (only : OnlyBackslashesFirst (c :: rest))
    (broken : ∃ d ∈ rest, isBreak d = true) : c = '\\' := by
  obtain ⟨d, member, breaks⟩ := broken
  obtain ⟨front, back, rfl⟩ := List.append_of_mem member
  exact only (c :: front) d back rfl breaks c List.mem_cons_self

theorem unbroken_of_not_exists {path : Text} (none_broken : ¬ ∃ c ∈ path, isBreak c = true) :
    ∀ c ∈ path, isBreak c = false := by
  intro c member
  rw [← Bool.not_eq_true]
  exact fun breaks => none_broken ⟨c, member, breaks⟩

theorem escape_cons (c : Char) (rest : Text) :
    escape .bare (c :: rest) = (if isBreak c then ['\\', c] else [c]) ++ escape .bare rest := rfl

theorem escape_of_unbroken (path : Text) (unbroken : ∀ c ∈ path, isBreak c = false) :
    escape .bare path = path := by
  induction path with
  | nil => rfl
  | cons c rest ih =>
    have others := ih fun d member => unbroken d (List.mem_cons_of_mem c member)
    rw [escape_cons, unbroken c List.mem_cons_self, others]
    rfl

/-- Where only backslashes stand before the last break, escaping puts backslashes before the path and
leaves it as it is. -/
theorem escape_of_broken (path : Text) (only : OnlyBackslashesFirst path)
    (broken : ∃ c ∈ path, isBreak c = true) :
    ∃ count, escape .bare path = List.replicate count '\\' ++ '\\' :: path := by
  induction path with
  | nil =>
    obtain ⟨c, member, -⟩ := broken
    cases member
  | cons c rest ih =>
    by_cases later : ∃ d ∈ rest, isBreak d = true
    · obtain ⟨count, escaped⟩ := ih only.tail later
      have backslash : isBreak '\\' = true := by decide
      have moved : '\\' :: '\\' :: List.replicate count '\\' =
          List.replicate (count + 1) '\\' ++ ['\\'] := by
        rw [← List.replicate_succ, ← List.replicate_succ, List.replicate_succ']
      refine ⟨count + 1, ?_⟩
      rw [only.head later, escape_cons, if_pos backslash, escaped]
      change ('\\' :: '\\' :: List.replicate count '\\') ++ '\\' :: rest = _
      rw [moved, List.append_assoc]
      rfl
    · have unbroken := unbroken_of_not_exists later
      have breaks : isBreak c = true := by
        obtain ⟨d, member, breaks⟩ := broken
        rcases List.mem_cons.mp member with rfl | among
        · exact breaks
        · exact absurd ⟨d, among, breaks⟩ later
      refine ⟨0, ?_⟩
      rw [escape_cons, if_pos breaks, escape_of_unbroken rest unbroken]
      rfl

/-- A path ends what is written for it exactly where only backslashes stand before its breaks. -/
theorem suffix_escape_iff (front path : Text) :
    path <:+ front ++ escape .bare path ↔ OnlyBackslashesFirst path := by
  constructor
  · intro suffix
    induction path generalizing front with
    | nil =>
      intro before c after same
      simp at same
    | cons first rest ih =>
      rw [escape_cons, ← List.append_assoc] at suffix
      generalize front ++ (if isBreak first then ['\\', first] else [first]) = longer at suffix
      have only := ih longer ((List.suffix_cons first rest).trans suffix)
      intro before c after same breaks d member
      rcases before with _ | ⟨head, before⟩
      · cases member
      · obtain ⟨rfl, inside⟩ := List.cons.inj same
        rcases List.mem_cons.mp member with rfl | among
        · -- What stands before the rest is a backslash, since the rest has a break in it.
          obtain ⟨count, escaped⟩ := escape_of_broken rest only ⟨c, by simp [inside], breaks⟩
          obtain ⟨left, joined⟩ := suffix
          rw [escaped] at joined
          have aligned : (left ++ [d]) ++ rest =
              (longer ++ List.replicate count '\\' ++ ['\\']) ++ rest := by
            simpa using joined
          have last := congrArg List.getLast? (List.append_cancel_right aligned)
          simpa using last
        · exact only before c after inside breaks d among
  · intro only
    by_cases broken : ∃ c ∈ path, isBreak c = true
    · obtain ⟨count, escaped⟩ := escape_of_broken path only broken
      rw [escaped]
      exact ⟨front ++ List.replicate count '\\' ++ ['\\'], by simp⟩
    · rw [escape_of_unbroken path (unbroken_of_not_exists broken)]
      exact List.suffix_append front path

/-- Escaping adds no white space. -/
theorem escape_whole (path : Text) (whole : ∀ c ∈ path, isBlank c = false) :
    ∀ c ∈ escape .bare path, isBlank c = false := by
  intro c member
  obtain ⟨d, among, written⟩ := List.mem_flatMap.mp member
  have kept := whole d among
  have backslash : isBlank '\\' = false := by decide
  change c ∈ (if isBreak d then ['\\', d] else [d]) at written
  split at written
  · rcases List.mem_cons.mp written with rfl | same
    · exact backslash
    · rw [List.mem_singleton.mp same, kept]
  · rw [List.mem_singleton.mp written, kept]

theorem escape_ne_nil {path : Text} (filled : path ≠ []) : escape .bare path ≠ [] := by
  cases path with
  | nil => exact absurd rfl filled
  | cons c rest =>
    rw [escape_cons]
    split <;> simp

end FileName

namespace Command

theorem getLast?_words {line argument : Text}
    (last : (parse line).arguments.getLast? = some argument) :
    (words line).getLast? = some argument := by
  rw [parse] at last
  cases found : words line with
  | nil =>
    rw [found] at last
    cases last
  | cons word arguments =>
    rw [found] at last
    rw [List.getLast?_cons, last]
    rfl

end Command

namespace Completion

open FileName (bareWord unescape escape OnlyBackslashesFirst denoted splitDirectory)

/-- A word that is added at the cursor does not change what stands before the word there. -/
theorem lead_append (front word : Text) (whole : ∀ c ∈ word, isBlank c = false) :
    lead (front ++ word) = lead front := by
  rw [lead, lead, List.rdropWhile, List.rdropWhile, List.reverse_append,
    List.dropWhile_append_of_pos]
  intro c member
  rw [whole c (List.mem_reverse.mp member)]
  rfl

/-- What the parser makes of a path that was put in the place of a bare word. -/
theorem escaped_passed_iff (front word path : Text) (later : atCommand (front ++ word) = false)
    (longer : unescape word <+: path) (filled : path ≠ []) :
    (∃ argument, (Command.parse (front ++ escape .bare path)).arguments.getLast? = some argument ∧
        path <:+ argument) ↔
      (∀ c ∈ path, isBlank c = false) ∧ OnlyBackslashesFirst path := by
  have typed := FileName.escape_ne_nil filled
  constructor
  · rintro ⟨argument, last, suffix⟩
    have found := Command.getLast?_words last
    have inside : argument ∈ words (front ++ escape .bare path) := List.mem_of_getLast? found
    have whole : ∀ c ∈ path, isBlank c = false := fun c member =>
      whole_of_mem_pieces isBlank _ argument inside c (suffix.subset member)
    rw [words_append_typed front _ typed (FileName.escape_whole path whole)] at found
    have same : lastWord front ++ escape .bare path = argument := by simpa using found
    rw [← same] at suffix
    exact ⟨whole, (FileName.suffix_escape_iff _ path).mp suffix⟩
  · rintro ⟨whole, only⟩
    have bare : ∀ c ∈ word, isBlank c = false := by
      intro c member
      by_cases backslash : c = '\\'
      · rw [backslash]
        rfl
      · exact whole c (longer.subset (FileName.mem_unescape member backslash))
    -- The command stands before the word, and so before what is put in its place.
    have command : words (lead front) ≠ [] := by
      intro none_there
      rw [← lead_append front word bare, words_lead_eq_nil_iff, later] at none_there
      cases none_there
    have found := words_append_typed front _ typed (FileName.escape_whole path whole)
    refine ⟨lastWord front ++ escape .bare path, ?_, (FileName.suffix_escape_iff _ path).mpr only⟩
    cases split : words (lead front) with
    | nil => exact absurd split command
    | cons first others =>
      rw [split] at found
      rw [Command.parse_of_words found]
      simp

theorem fileNames_of_bare (files : Files) (home : Path) (line : Text)
    (unquoted : FileName.openQuote line = none) :
    fileNames files home line = ⟨startOf line (bareWord line),
      FileName.candidates files home .bare (unescape (bareWord line))⟩ := by
  rw [fileNames, FileName.wordAt, unquoted]

/-- The bare word at the cursor is what a completed file name takes the place of. -/
theorem splitAt_fileNames (files : Files) (home : Path) (line : Text)
    (unquoted : FileName.openQuote line = none) :
    ∃ front, front ++ bareWord line = line ∧
      Utf8.splitAt (fileNames files home line).start line = some (front, bareWord line) := by
  obtain ⟨front, joined⟩ := FileName.bareWord_suffix line
  refine ⟨front, joined, (Utf8.splitAt_eq_some_iff _ _ _ _).mpr ⟨joined, ?_⟩⟩
  have sized := congrArg Utf8.size joined
  rw [Utf8.size_append] at sized
  rw [fileNames_of_bare _ _ _ unquoted]
  change _ = Utf8.size line - Utf8.size (bareWord line)
  omega

/-- A completed file name reaches the command as the end of its last argument exactly where the path holds no
white space and nothing but backslashes stands before a character that the completer escapes: the parser
takes the backslashes it finds there for characters of the argument. -/
theorem completed_file_passed_iff (source : PathSource) (around : Surroundings) (home : Path)
    (line : Text) (present : Path → Bytes → Prop) (faithful : around.files.Faithful present)
    (later : atCommand line = false) (unquoted : FileName.openQuote line = none) :
    ∃ completion front word,
      completeAt source around home line (Utf8.size line) = some completion ∧
      Utf8.splitAt completion.start line = some (front, word) ∧
      ∀ candidate ∈ completion.candidates,
        let path := denoted around.files home (splitDirectory (unescape word)).1 candidate
        let completed := Command.parse (front ++ candidate.replacement)
        candidate.replacement = escape .bare path ∧
          ((∃ argument, completed.arguments.getLast? = some argument ∧ path <:+ argument) ↔
            (∀ c ∈ path, isBlank c = false) ∧ OnlyBackslashesFirst path) := by
  have completed := completeAt_end_of_later source around home later
  obtain ⟨front, joined, cut⟩ := splitAt_fileNames around.files home line unquoted
  refine ⟨_, front, bareWord line, completed, cut, ?_⟩
  intro candidate member
  rw [fileNames_of_bare _ _ _ unquoted] at member
  obtain ⟨⟨entries, listed, among⟩, -, starts, replaced⟩ :=
    (FileName.mem_candidates_iff _ _ _ _ _).mp member
  refine ⟨replaced, ?_⟩
  rw [replaced]
  have named : candidate.display ≠ [] := by
    intro empty
    have nonempty := ((faithful.listed _ entries listed _).mp among).1.1
    rw [empty] at nonempty
    exact nonempty rfl
  apply escaped_passed_iff front (bareWord line)
  · rw [joined, later]
  · have written := FileName.splitDirectory_append (unescape (bareWord line))
    rw [denoted, List.append_assoc]
    conv_lhs => rw [← written]
    exact (List.prefix_append_right_inj _).mpr (starts.trans (List.prefix_append ..))
  · simp [denoted, named]

open FileSystem (binPath solitary)

section Solitary

variable {line name start : Text} (unquoted : FileName.openQuote line = none)
  (asked : splitDirectory (unescape (bareWord line)) = ("/bin/".toList, start))
  (starts : start <+: name) (named : IsEntryName (Utf8.encode name)) (clean : 0 ∉ Utf8.encode name)
  (short : (Utf8.encode name).length ≤ FileSystem.nameLimit)

include named clean short

theorem denoted_solitary (replacement : Text) :
    denoted ((solitary (Utf8.encode name) 0o644).view []) [] "/bin/".toList ⟨name, replacement⟩ =
      "/bin/".toList ++ name := by
  have directory : FileName.directoryPath [] "/bin/".toList = binPath := by decide
  rw [denoted, directory, FileSystem.kind_solitary 0o644 named clean short]
  simp

include unquoted asked starts

/-- The one file in a directory is offered for each beginning of its name. -/
theorem mem_fileNames_solitary :
    ⟨name, escape .bare ("/bin/".toList ++ name)⟩ ∈
      (fileNames ((solitary (Utf8.encode name) 0o644).view []) [] line).candidates := by
  have directory : FileName.directoryPath [] "/bin/".toList = binPath := by decide
  rw [fileNames_of_bare _ _ _ unquoted]
  refine (FileName.mem_candidates_iff _ _ _ _ _).mpr ?_
  rw [asked]
  refine ⟨⟨_, ?_, List.mem_singleton_self (Utf8.encode name)⟩, ?_, starts, ?_⟩
  · rw [directory]
    exact FileSystem.list_solitary 0o644
  · rw [directory, FileSystem.kind_solitary 0o644 named clean short]
    rfl
  · rw [denoted_solitary named clean short]

/-- The file is offered on the line, and stands for its path there. -/
theorem offered_solitary (later : atCommand line = false) {source : PathSource} {value : Option Bytes}
    {completion : Completion} {front word : Text}
    (completed : completeAt source ⟨value, (solitary (Utf8.encode name) 0o644).view []⟩ [] line
      (Utf8.size line) = some completion)
    (cut : Utf8.splitAt completion.start line = some (front, word)) :
    ∃ candidate ∈ completion.candidates, candidate.display = name ∧
      denoted ((solitary (Utf8.encode name) 0o644).view []) [] (splitDirectory (unescape word)).1
        candidate = "/bin/".toList ++ name := by
  have same := completeAt_end_of_later source
    ⟨value, (solitary (Utf8.encode name) 0o644).view []⟩ [] later
  obtain rfl := Option.some.inj (completed.symm.trans same)
  obtain ⟨before, -, whole⟩ := splitAt_fileNames ((solitary (Utf8.encode name) 0o644).view []) []
    line unquoted
  obtain ⟨rfl, rfl⟩ := Prod.mk.inj (Option.some.inj (cut.symm.trans whole))
  refine ⟨_, mem_fileNames_solitary unquoted asked starts named clean short, rfl, ?_⟩
  rw [asked]
  exact denoted_solitary named clean short _

end Solitary

/-- A file with a space in its name is offered with a backslash before the space, and the completed line has
two arguments for it, neither of which ends with its path. -/
theorem spaced_file_splits :
    let name := "a b".toList
    let files := solitary (Utf8.encode name) 0o644
    let around : Surroundings := ⟨none, files.view []⟩
    let line := "cat /bin/a".toList
    around.files.Faithful (files.Holds []) ∧ atCommand line = false ∧
      FileName.openQuote line = none ∧
      ∃ completion front word,
        completeAt .environment around [] line (Utf8.size line) = some completion ∧
        Utf8.splitAt completion.start line = some (front, word) ∧
        ∃ candidate ∈ completion.candidates,
          candidate.replacement = "/bin/a\\ b".toList ∧
          denoted around.files [] (splitDirectory (unescape word)).1 candidate =
            "/bin/a b".toList ∧
          (Command.parse (front ++ candidate.replacement)).arguments =
            ["/bin/a\\".toList, "b".toList] ∧
          ¬ ∃ argument,
            (Command.parse (front ++ candidate.replacement)).arguments.getLast? = some argument ∧
              denoted around.files [] (splitDirectory (unescape word)).1 candidate <:+ argument := by
  intro name files around line
  have named : IsEntryName (Utf8.encode name) := by decide
  have later : atCommand line = false := by decide
  have unquoted : FileName.openQuote line = none := by decide +kernel
  have completed := completeAt_end_of_later .environment around [] later
  have asked : splitDirectory (unescape (bareWord line)) = ("/bin/".toList, "a".toList) := by decide
  have offered :=
    mem_fileNames_solitary unquoted asked (by decide) named (by decide) (by decide)
  have path : denoted around.files [] (splitDirectory (unescape (bareWord line))).1
      ⟨name, escape .bare ("/bin/".toList ++ name)⟩ = "/bin/a b".toList := by
    rw [asked]
    exact (denoted_solitary named (by decide) (by decide) _).trans (by decide)
  have arguments : (Command.parse ("cat ".toList ++ escape .bare ("/bin/".toList ++ name))).arguments =
      ["/bin/a\\".toList, "b".toList] := by decide
  refine ⟨FileSystem.view_faithful (FileSystem.solitary_wellFormed 0o644 named) [], later, unquoted, _,
    "cat ".toList, bareWord line, completed, ?_, _, offered, by decide, path, arguments, ?_⟩
  · rw [fileNames_of_bare _ _ _ unquoted]
    decide
  · rw [arguments, path]
    rintro ⟨argument, last, suffix⟩
    obtain rfl := Option.some.inj last
    revert suffix
    decide

/-- A file with a plain name is passed on under its path. -/
theorem completed_file_passed_ls :
    let name := "ls".toList
    let files := solitary (Utf8.encode name) 0o644
    let around : Surroundings := ⟨none, files.view []⟩
    let line := "cat -n /bin/l".toList
    around.files.Faithful (files.Holds []) ∧ atCommand line = false ∧
      FileName.openQuote line = none ∧
      ∃ completion front word,
        completeAt .environment around [] line (Utf8.size line) = some completion ∧
        Utf8.splitAt completion.start line = some (front, word) ∧
        ∃ candidate ∈ completion.candidates, candidate.display = name ∧
          ∃ argument,
            (Command.parse (front ++ candidate.replacement)).arguments.getLast? = some argument ∧
              "/bin/ls".toList <:+ argument := by
  intro name files around line
  have named : IsEntryName (Utf8.encode name) := by decide
  have faithful := FileSystem.view_faithful (FileSystem.solitary_wellFormed 0o644 named) []
  have later : atCommand line = false := by decide
  have unquoted : FileName.openQuote line = none := by decide +kernel
  have asked : splitDirectory (unescape (bareWord line)) = ("/bin/".toList, "l".toList) := by decide
  obtain ⟨completion, front, word, completed, cut, passed⟩ :=
    completed_file_passed_iff .environment around [] line _ faithful later unquoted
  obtain ⟨candidate, offered, shown, path⟩ := offered_solitary unquoted asked (by decide) named
    (by decide) (by decide) later completed cut
  obtain ⟨-, ends⟩ := passed candidate offered
  have plain : "/bin/".toList ++ name = "/bin/ls".toList := by decide
  rw [path, plain] at ends
  have whole : "/bin/ls".toList.any isBlank = false := by decide
  have unbroken : "/bin/ls".toList.any FileName.isBreak = false := by decide
  rw [List.any_eq_false] at whole unbroken
  refine ⟨faithful, later, unquoted, completion, front, word, completed, cut, candidate, offered, shown,
    ends.mpr ⟨fun c member => by simpa using whole c member, ?_⟩⟩
  intro before c after split breaks
  exact absurd breaks (unbroken c (by rw [split]; simp))

end Completion

end CommandShell
