import CommandShell.Input
import CommandShell.Proofs.Reader.Exchange
import CommandShell.Proofs.Utf8
import Mathlib.Data.List.TakeWhile

/-!
How an input is cut into lines, told without the functions that cut it, and what its lines read as.
-/

set_option autoImplicit false

namespace CommandShell.Input

/-- An input is cut into lines at its line feeds. One carriage return right before a line feed goes with
it. What stands behind the last line feed is a line too, unless it is empty. -/
inductive Cuts : Bytes → List Bytes → Prop
  | nothing : Cuts [] []
  | last (line : Bytes) (filled : line ≠ []) (whole : lineFeed ∉ line) : Cuts line [line]
  | fed (line rest : Bytes) (others : List Bytes) (whole : lineFeed ∉ line)
      (plain : line.getLast? ≠ some carriageReturn) (later : Cuts rest others) :
      Cuts (line ++ lineFeed :: rest) (line :: others)
  | returned (line rest : Bytes) (others : List Bytes) (whole : lineFeed ∉ line)
      (later : Cuts rest others) :
      Cuts (line ++ carriageReturn :: lineFeed :: rest) (line :: others)

theorem dropReturn_of_plain {line : Bytes} (plain : line.getLast? ≠ some carriageReturn) :
    dropReturn line = line := if_neg plain

theorem dropReturn_concat (line : Bytes) : dropReturn (line ++ [carriageReturn]) = line := by
  rw [dropReturn, if_pos List.getLast?_concat, List.dropLast_concat]

theorem not_lineFeed_of_mem {line : Bytes} (whole : lineFeed ∉ line) :
    ∀ b ∈ line, (b != lineFeed) = true := by
  intro b member
  rw [bne_iff_ne]
  rintro rfl
  exact whole member

theorem nextLine_of_feed {line : Bytes} (whole : lineFeed ∉ line) (rest : Bytes) :
    nextLine (line ++ lineFeed :: rest) = some (dropReturn line, rest) := by
  have others := not_lineFeed_of_mem whole
  rw [nextLine, List.takeWhile_append_of_pos others, List.dropWhile_append_of_pos others]
  simp

theorem nextLine_of_last {line : Bytes} (filled : line ≠ []) (whole : lineFeed ∉ line) :
    nextLine line = some (line, []) := by
  have others := not_lineFeed_of_mem whole
  have taken : line.takeWhile (· != lineFeed) = line := List.takeWhile_eq_self_iff.mpr others
  have dropped : line.dropWhile (· != lineFeed) = [] := List.dropWhile_eq_nil_iff.mpr others
  rw [nextLine, taken, dropped]
  simp [filled]

theorem lines_of_none {input : Bytes} (none_left : nextLine input = none) : lines input = [] := by
  unfold lines
  split
  · rfl
  · simp_all

theorem lines_of_some {input line rest : Bytes} (found : nextLine input = some (line, rest)) :
    lines input = line :: lines rest := by
  rw [lines]
  split
  · simp_all
  · simp_all

/-- An input is empty, or a line without a line feed, or has a first line feed. -/
theorem shape (input : Bytes) :
    input = [] ∨ input ≠ [] ∧ lineFeed ∉ input ∨
      ∃ line rest, lineFeed ∉ line ∧ input = line ++ lineFeed :: rest := by
  by_cases fed : lineFeed ∈ input
  · obtain ⟨line, rest, split, first⟩ := List.eq_append_cons_of_mem fed
    exact .inr (.inr ⟨line, rest, first, split⟩)
  · by_cases filled : input = []
    · exact .inl filled
    · exact .inr (.inl ⟨filled, fed⟩)

theorem lines_of_cuts {input : Bytes} {found : List Bytes} (cuts : Cuts input found) :
    lines input = found := by
  induction cuts with
  | nothing => exact lines_of_none rfl
  | last line filled whole =>
    rw [lines_of_some (nextLine_of_last filled whole), lines_of_none rfl]
  | fed line rest others whole plain later ih =>
    rw [lines_of_some (nextLine_of_feed whole rest), dropReturn_of_plain plain, ih]
  | returned line rest others whole later ih =>
    have still_whole : lineFeed ∉ line ++ [carriageReturn] := by
      rw [List.mem_append, List.mem_singleton]
      exact fun member => member.elim whole (by decide)
    rw [List.append_cons, lines_of_some (nextLine_of_feed still_whole rest),
      dropReturn_concat, ih]

/-- Every input can be cut, a first line at a time. -/
theorem cuts_lines (input : Bytes) : Cuts input (lines input) := by
  induction size : input.length using Nat.strongRecOn generalizing input with
  | ind size ih =>
    rcases shape input with rfl | ⟨filled, whole⟩ | ⟨line, rest, whole, rfl⟩
    · rw [lines_of_none rfl]
      exact .nothing
    · rw [lines_of_some (nextLine_of_last filled whole), lines_of_none rfl]
      exact .last input filled whole
    · rw [lines_of_some (nextLine_of_feed whole rest)]
      have later : Cuts rest (lines rest) := by
        apply ih rest.length _ rest rfl
        rw [← size, List.length_append, List.length_cons]
        omega
      by_cases ended : line.getLast? = some carriageReturn
      · obtain ⟨front, rfl⟩ := List.getLast?_eq_some_iff.mp ended
        rw [dropReturn_concat, List.append_assoc]
        exact .returned front rest _ (fun member => whole (List.mem_append_left _ member)) later
      · rw [dropReturn_of_plain ended]
        exact .fed line rest _ whole ended later

/-- An input is cut in one way only. -/
theorem cuts_iff (input : Bytes) (found : List Bytes) : Cuts input found ↔ lines input = found := by
  refine ⟨lines_of_cuts, ?_⟩
  rintro rfl
  exact cuts_lines input

/-- What a line editor does with a line that nobody types: it yields the line as it is, if it is UTF-8, or
else says that it cannot. -/
structure Edits (edit : Bytes → Except EditorError Text) (line : Bytes) : Prop where
  text : ∀ text, Utf8.decode line = some text → edit line = .ok text
  refused : Utf8.decode line = none → ∃ reason, edit line = .error (.io reason)

/-- A line that is yielded as it is. -/
def unedited (line : Bytes) : Except EditorError Text :=
  match Utf8.decode line with
  | some text => .ok text
  | none => .error (.io "stream did not contain valid UTF-8".toList)

theorem edits_unedited (line : Bytes) : Edits unedited line := by
  refine ⟨?_, ?_⟩
  · intro text decoded
    rw [unedited, decoded]
  · intro broken
    exact ⟨_, by rw [unedited, broken]⟩

/-- A line without backspaces reads as it is. -/
theorem reading_of_plain {line : Bytes} (plain : 0x08 ∉ line) :
    reading line = .ofEditor (unedited line) := by
  rw [reading, unedited]
  cases decoded : Utf8.decode line with
  | none => rfl
  | some text =>
    have kept : backspace ∉ text := by
      intro member
      rw [← (Utf8.decode_eq_some_iff line text).mp decoded] at plain
      exact plain ((Utf8.mem_encode_iff (by decide) text).mpr member)
    simp only [edit, if_neg kept]
    rfl

theorem mem_of_cuts {input : Bytes} {found : List Bytes} (cuts : Cuts input found) {line : Bytes}
    (among : line ∈ found) {b : UInt8} (member : b ∈ line) : b ∈ input := by
  induction cuts with
  | nothing => cases among
  | last whole => rwa [List.mem_singleton.mp among] at member
  | fed first rest others whole plain later ih | returned first rest others whole later ih =>
    rcases List.mem_cons.mp among with rfl | behind
    · exact List.mem_append_left _ member
    · simp [ih behind]

/-- So do the lines of an input without backspaces. -/
theorem reading_of_mem_lines {input : Bytes} (plain : 0x08 ∉ input) {line : Bytes}
    (among : line ∈ lines input) : reading line = .ofEditor (unedited line) :=
  reading_of_plain fun member => plain (mem_of_cuts (cuts_lines input) among member)

end CommandShell.Input
