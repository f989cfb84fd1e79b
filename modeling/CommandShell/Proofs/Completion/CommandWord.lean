import CommandShell.Completion.Line
import CommandShell.Proofs.Pieces
import CommandShell.Proofs.Utf8
import Mathlib.Data.List.DropRight

/-!
Which word of a line is completed as a command. The word at the cursor is found from behind, the words of
a line from its beginning; both ways lead to the same first word.
-/

set_option autoImplicit false

namespace CommandShell

/-- The stretch at the end of a list that is kept, taken off by its length. -/
theorem take_eq_rdropWhile {α : Type} (keeps : α → Bool) (as : List α) :
    as.take (as.length - (as.rtakeWhile keeps).length) = as.rdropWhile keeps := by
  have whole : as.rdropWhile keeps ++ as.rtakeWhile keeps = as :=
    List.rdropWhile_append_rtakeWhile ..
  have counted : as.length - (as.rtakeWhile keeps).length = (as.rdropWhile keeps).length := by
    have sized := congrArg List.length whole
    rw [List.length_append] at sized
    omega
  have front : (as.rdropWhile keeps ++ as.rtakeWhile keeps).take (as.rdropWhile keeps).length =
      as.rdropWhile keeps := List.take_left
  rw [whole] at front
  rw [counted, front]

namespace Command

theorem parse_of_words {line word : Text} {arguments : List Text}
    (found : words line = word :: arguments) : parse line = ⟨word, arguments⟩ := by
  rw [parse, found]

end Command

namespace Completion

/-- What stands before the word at the cursor. -/
def lead (before : Text) : Text := before.rdropWhile (!isBlank ·)

theorem lead_append_lastWord (before : Text) : lead before ++ lastWord before = before :=
  List.rdropWhile_append_rtakeWhile ..

theorem whole_lastWord (before : Text) : ∀ c ∈ lastWord before, isBlank c = false := by
  intro c member
  have kept : (!isBlank c) = true := List.mem_rtakeWhile_imp (p := (!isBlank ·)) member
  simpa using kept

/-- The word at the cursor reaches back to the last white space. -/
theorem lead_ends (before : Text) : ∀ c, (lead before).getLast? = some c → isBlank c = true := by
  intro c last
  have filled : lead before ≠ [] := by
    intro empty
    rw [empty] at last
    cases last
  have stopped := List.rdropWhile_last_not (!isBlank ·) before filled
  rw [List.getLast?_eq_getLast_of_ne_nil filled, Option.some.injEq] at last
  rw [← last]
  simpa [lead] using stopped

theorem atCommand_eq (before : Text) : atCommand before = (lead before).isBlank := by
  have front : before.take (before.length - (lastWord before).length) = lead before :=
    take_eq_rdropWhile (!isBlank ·) before
  rw [atCommand, front]

theorem startOf_lastWord (before : Text) :
    startOf before (lastWord before) = Utf8.size (lead before) := by
  have whole := congrArg Utf8.size (lead_append_lastWord before)
  rw [Utf8.size_append] at whole
  rw [startOf]
  omega

/-- Whatever is typed on at the cursor makes the word there longer, for the parser too. -/
theorem words_append_typed (before typed : Text) (filled : typed ≠ [])
    (whole : ∀ c ∈ typed, isBlank c = false) :
    words (before ++ typed) = words (lead before) ++ [lastWord before ++ typed] := by
  have longer : before ++ typed = lead before ++ (lastWord before ++ typed) := by
    rw [← List.append_assoc, lead_append_lastWord]
  rw [longer]
  refine pieces_append_piece isBlank _ _ (lead_ends before) (by simp [filled]) ?_
  intro c member
  rcases List.mem_append.mp member with earlier | now
  · exact whole_lastWord before c earlier
  · exact whole c now

theorem words_lead_eq_nil_iff (before : Text) :
    words (lead before) = [] ↔ atCommand before = true := by
  rw [atCommand_eq]
  exact pieces_eq_nil_iff isBlank (lead before)

/-- What completing the first word of a line offers. -/
def commandNames (source : PathSource) (around : Surroundings) (before : Text) : Completion :=
  ⟨startOf before (lastWord before),
    (source.commandsStarting around (lastWord before)).map fun name => ⟨name, name⟩⟩

/-- What completing any other word offers. -/
def fileNames (files : Files) (home : Path) (before : Text) : Completion :=
  let (written, quoting, word) := FileName.wordAt before
  ⟨startOf before written, FileName.candidates files home quoting word⟩

theorem completeAt_eq (source : PathSource) (around : Surroundings) (home : Path)
    (before after : Text) :
    completeAt source around home (before ++ after) (Utf8.size before) =
      some (if atCommand before then commandNames source around before
        else fileNames around.files home before) := by
  have cut := (Utf8.splitAt_eq_some_iff _ _ before after).mpr ⟨rfl, rfl⟩
  rw [completeAt, cut]
  rfl

/-- At the end of a line whose first word is not over, commands are offered. -/
theorem completeAt_end_of_first (source : PathSource) (around : Surroundings) (home : Path)
    {line : Text} (first : atCommand line = true) :
    completeAt source around home line (Utf8.size line) = some (commandNames source around line) := by
  have completed := completeAt_eq source around home line []
  rwa [List.append_nil, if_pos first] at completed

/-- At the end of a later word, files are offered. -/
theorem completeAt_end_of_later (source : PathSource) (around : Surroundings) (home : Path)
    {line : Text} (later : atCommand line = false) :
    completeAt source around home line (Utf8.size line) =
      some (fileNames around.files home line) := by
  have completed := completeAt_eq source around home line []
  rwa [List.append_nil, later, if_neg Bool.false_ne_true] at completed

/-- A word is completed as a command exactly where the parser takes it for the command, whatever is
typed on. It begins where the white space before it ends, and what is typed on makes it longer. -/
theorem completeAt_iff_parse (source : PathSource) (around : Surroundings) (home : Path)
    (before after typed : Text) (filled : typed ≠ []) (whole : ∀ c ∈ typed, isBlank c = false) :
    let line := before ++ after
    let command := Command.parse (before ++ typed)
    (atCommand before = true ↔ command.arguments = []) ∧
      completeAt source around home line (Utf8.size before) =
        some (if command.arguments = [] then commandNames source around before
          else fileNames around.files home before) ∧
      (command.arguments = [] → ∃ gap word, gap ++ word = before ∧ gap.isBlank = true ∧
        (∀ c ∈ word, isBlank c = false) ∧
        Utf8.splitAt (commandNames source around before).start line = some (gap, word ++ after) ∧
        (commandNames source around before).candidates =
          (source.commandsStarting around word).map (fun name => ⟨name, name⟩) ∧
        command.word = word ++ typed) := by
  intro line command
  have found := words_append_typed before typed filled whole
  have first : atCommand before = true ↔ command.arguments = [] := by
    rw [← words_lead_eq_nil_iff]
    cases front : words (lead before) with
    | nil =>
      have parsed : command = ⟨_, []⟩ := Command.parse_of_words (by rw [found, front]; rfl)
      simp [parsed]
    | cons word others =>
      have parsed : command = ⟨word, others ++ [lastWord before ++ typed]⟩ :=
        Command.parse_of_words (by rw [found, front]; rfl)
      simp [parsed]
  refine ⟨first, ?_, ?_⟩
  · simp only [line, completeAt_eq, first]
  · intro alone
    have blank := first.mpr alone
    have front := (words_lead_eq_nil_iff before).mpr blank
    have parsed : command = ⟨lastWord before ++ typed, []⟩ :=
      Command.parse_of_words (by rw [found, front]; rfl)
    refine ⟨lead before, lastWord before, lead_append_lastWord before, ?_, whole_lastWord before, ?_,
      rfl, by rw [parsed]⟩
    · rw [← atCommand_eq, blank]
    · refine (Utf8.splitAt_eq_some_iff _ _ _ _).mpr ⟨?_, (startOf_lastWord before).symm⟩
      rw [← List.append_assoc, lead_append_lastWord]

/-- The word after a wide space, with more of the line behind the cursor, goes on to be a builtin. -/
theorem completeAt_iff_parse_wide :
    let before := "\u3000 ec".toList
    let after := " y".toList
    let typed := "ho".toList
    let offered := commandNames .environment ⟨none, Files.none⟩ before
    typed ≠ [] ∧ (∀ c ∈ typed, isBlank c = false) ∧
      (Command.parse (before ++ typed)).arguments = [] ∧
      completeAt .environment ⟨none, Files.none⟩ [] (before ++ after) (Utf8.size before) = some offered ∧
      ∃ gap word : Text, gap ++ word = before ∧ gap.isBlank = true ∧
        Utf8.splitAt offered.start (before ++ after) = some (gap, word ++ after) ∧
        (Command.parse (before ++ typed)).word = word ++ typed := by
  intro before after typed offered
  have filled : typed ≠ [] := by decide
  have whole : ∀ c ∈ typed, isBlank c = false :=
    List.forall_mem_cons.mpr ⟨rfl, List.forall_mem_singleton.mpr rfl⟩
  obtain ⟨first, completed, spans⟩ :=
    completeAt_iff_parse .environment ⟨none, Files.none⟩ [] before after typed filled whole
  have alone := first.mp (by decide)
  obtain ⟨gap, word, joined, blank, -, cut, -, command⟩ := spans alone
  rw [if_pos alone] at completed
  exact ⟨filled, whole, alone, completed, gap, word, joined, blank, cut, command⟩

end Completion

end CommandShell
