import CommandShell.Proofs.Boundary
import CommandShell.Proofs.Completion.AcceptedFile

/-!
The part of a line that a completion replaces. Completing by byte offsets, where each part of the line is cut
out at its ends, never cuts a character: it fails at a bad cursor, and comes to the same as completing
characters everywhere else.
-/

set_option autoImplicit false

namespace CommandShell

namespace Utf8

/-- The characters of a text, each with the offset where it begins; the text itself begins at the given
one. -/
def indexed (offset : Nat) : Text → List (Nat × Char)
  | [] => []
  | c :: rest => (offset, c) :: indexed (offset + (encodeChar c).length) rest

theorem indexed_append (offset : Nat) (front back : Text) :
    indexed offset (front ++ back) = indexed offset front ++ indexed (offset + size front) back := by
  induction front generalizing offset with
  | nil => rfl
  | cons c front ih =>
    have further : offset + (encodeChar c).length + size front = offset + size (c :: front) := by
      rw [size_cons, Nat.add_assoc]
    rw [List.cons_append, indexed, indexed, ih, further, List.cons_append]

theorem mem_of_mem_indexed {offset : Nat} {t : Text} {placed : Nat × Char}
    (member : placed ∈ indexed offset t) : placed.2 ∈ t := by
  induction t generalizing offset with
  | nil => cases member
  | cons c rest ih =>
    rcases List.mem_cons.mp member with rfl | later
    · exact List.mem_cons_self
    · exact List.mem_cons_of_mem c (ih later)

end Utf8

namespace FileName

/-- What is quoted is the end of what is read, with what was held before it. -/
theorem openQuoteFrom_suffix (quoting : Quoting) (held t : Text) (quoted : Quoting × Text)
    (opened : openQuoteFrom quoting held t = some quoted) : quoted.2 <:+ held.reverse ++ t := by
  have behind (front rest : Text) (c : Char) : rest <:+ front ++ c :: rest :=
    (List.suffix_cons c rest).trans (List.suffix_append front (c :: rest))
  fun_induction openQuoteFrom quoting held t with
  | case1 | case6 => cases opened
  | case2 | case3 | case12 =>
    obtain rfl := Option.some.inj opened
    simp
  -- A mark that opens or closes, and a character outside quotes, leave nothing held.
  | case4 held rest ih | case5 held rest _ ih | case8 held c rest _ _ _ ih | case9 held rest ih
  | case11 held rest ih =>
    exact (ih opened).trans (behind held.reverse rest _)
  | case7 held c rest _ _ ih =>
    have passed := (ih opened).trans (List.suffix_cons c rest)
    exact passed.trans (behind held.reverse (c :: rest) '\\')
  -- Within quotes what is read is held.
  | case10 held c rest _ ih | case14 held c rest _ _ ih =>
    have longer := ih opened
    rwa [List.reverse_cons, List.append_assoc] at longer
  | case13 held c rest _ ih =>
    have longer := ih opened
    rwa [List.reverse_cons, List.reverse_cons, List.append_assoc, List.append_assoc] at longer

/-- The word at the end of a text is the end of the text, quoted or bare. -/
theorem wordAt_suffix (t : Text) : (wordAt t).1 <:+ t := by
  cases opened : openQuote t with
  | none =>
    rw [wordAt, opened]
    exact bareWord_suffix t
  | some quoted =>
    have suffix := openQuoteFrom_suffix .bare [] t quoted opened
    have same : (wordAt t).1 = quoted.2 := by
      rw [wordAt, opened]
      obtain ⟨quoting, word⟩ := quoted
      cases quoting <;> rfl
    rw [same]
    exact suffix

end FileName

namespace Completion

/-- A place behind the last white space of a text, or at its beginning where there is none. -/
inductive BehindLastBlank (before : Text) : Nat → Prop
  | beginning (solid : ∀ c ∈ before, c ∉ whiteSpace) : BehindLastBlank before 0
  | behind (front : Text) (c : Char) (word : Text) (written : before = front ++ c :: word)
      (blank : c ∈ whiteSpace) (solid : ∀ d ∈ word, d ∉ whiteSpace) :
      BehindLastBlank before (Utf8.size (front ++ [c]))

/-- The offset behind the last white space of a text, which is looked for from the end. -/
def wordStart (before : Text) : Nat :=
  match (Utf8.indexed 0 before).reverse.find? fun (_, c) => isBlank c with
  | some (offset, c) => offset + (Utf8.encodeChar c).length
  | none => 0

/-- Completes a line at a byte offset, with each part of it cut out between two offsets. A cut that is no
place between two characters leaves nothing. -/
def completeSliced (source : PathSource) (around : Surroundings) (home : Path) (line : Text)
    (cursor : Nat) : Option Completion := do
  let (before, _) ← Utf8.splitAt cursor line
  let start := wordStart before
  let (gap, _) ← Utf8.splitAt start before
  if gap.isBlank then
    let (_, word) ← Utf8.splitAt start before
    return ⟨start, (source.commandsStarting around word).map fun name => ⟨name, name⟩⟩
  else
    return fileNames around.files home before

theorem solid_lastWord (before : Text) : ∀ c ∈ lastWord before, c ∉ whiteSpace := by
  intro c member
  exact (isBlank_eq_false_iff c).mp (whole_lastWord before c member)

/-- What stands before the last word is nothing, or ends with white space. -/
theorem lead_cases (before : Text) :
    lead before = [] ∨ ∃ front c, lead before = front ++ [c] ∧ isBlank c = true := by
  rcases List.eq_nil_or_concat (lead before) with empty | ⟨front, c, ends⟩
  · exact .inl empty
  · rw [List.concat_eq_append] at ends
    have last : (lead before).getLast? = some c := by
      rw [ends]
      exact List.getLast?_concat
    exact .inr ⟨front, c, ends, lead_ends before c last⟩

theorem behindLastBlank_lead (before : Text) : BehindLastBlank before (Utf8.size (lead before)) := by
  have written := lead_append_lastWord before
  rcases lead_cases before with empty | ⟨front, c, ends, blank⟩
  · rw [empty]
    apply BehindLastBlank.beginning
    have solid := solid_lastWord before
    rw [empty, List.nil_append] at written
    rwa [written] at solid
  · rw [ends, List.append_assoc] at written
    rw [ends]
    exact .behind front c (lastWord before) written.symm ((isBlank_iff c).mp blank)
      (solid_lastWord before)

/-- From the end, nothing in the last word is white space, and what stands before it ends with some. -/
theorem wordStart_eq (before : Text) : wordStart before = Utf8.size (lead before) := by
  have passed : ((Utf8.indexed (0 + Utf8.size (lead before)) (lastWord before)).reverse.find?
      fun placed => isBlank placed.2) = none := by
    rw [List.find?_eq_none]
    intro placed member
    have within := Utf8.mem_of_mem_indexed (List.mem_reverse.mp member)
    rw [whole_lastWord before placed.2 within]
    exact Bool.false_ne_true
  have parts := Utf8.indexed_append 0 (lead before) (lastWord before)
  rw [lead_append_lastWord] at parts
  rw [wordStart, parts, List.reverse_append, List.find?_append, passed, Option.none_or]
  rcases lead_cases before with empty | ⟨front, c, ends, blank⟩
  · rw [empty]
    rfl
  · rw [ends, Utf8.indexed_append, List.reverse_append, Utf8.size_append, Utf8.size_cons]
    simp [Utf8.indexed, blank, Utf8.size]

/-- No cut within the text before the cursor fails. -/
theorem completeSliced_eq (source : PathSource) (around : Surroundings) (home : Path) (line : Text)
    (cursor : Nat) :
    completeSliced source around home line cursor = completeAt source around home line cursor := by
  cases cut : Utf8.splitAt cursor line with
  | none => rw [completeSliced, completeAt, cut]; rfl
  | some parts =>
    obtain ⟨before, after⟩ := parts
    have inner : Utf8.splitAt (wordStart before) before = some (lead before, lastWord before) :=
      (Utf8.splitAt_eq_some_iff _ _ _ _).mpr ⟨lead_append_lastWord before, (wordStart_eq before).symm⟩
    obtain ⟨rfl, rfl⟩ := (Utf8.splitAt_eq_some_iff _ _ _ _).mp cut
    rw [completeAt_eq, completeSliced, cut, commandNames, startOf_lastWord, ← wordStart_eq,
      atCommand_eq]
    simp only [Option.bind_eq_bind, Option.bind_some, inner]
    split <;> rfl

theorem start_fileNames (files : Files) (home : Path) (before : Text) :
    ∃ front, front ++ (FileName.wordAt before).1 = before ∧
      (fileNames files home before).start = Utf8.size front := by
  obtain ⟨front, joined⟩ := FileName.wordAt_suffix before
  refine ⟨front, joined, ?_⟩
  have sized := congrArg Utf8.size joined
  rw [Utf8.size_append] at sized
  change startOf before (FileName.wordAt before).1 = Utf8.size front
  rw [startOf]
  omega

/-- Whatever is completed begins within the text before the cursor, between two characters. -/
theorem exists_front_of_start (source : PathSource) (around : Surroundings) (home : Path)
    (before : Text) :
    ∃ front word, front ++ word = before ∧
      (if atCommand before then commandNames source around before
        else fileNames around.files home before).start = Utf8.size front := by
  cases atCommand before with
  | true => exact ⟨lead before, lastWord before, lead_append_lastWord before, startOf_lastWord before⟩
  | false =>
    obtain ⟨front, joined, starts⟩ := start_fileNames around.files home before
    exact ⟨front, _, joined, starts⟩

/-- A completion fails exactly if the cursor is behind the line or within a character, and no cut on the way
fails beside that one. Any other completion starts between two characters and not behind the cursor, and
hangs on the text before the cursor alone. Where a command is completed it starts behind the last white
space there. -/
theorem completeAt_span (source : PathSource) (around : Surroundings) (home : Path) (line : Text)
    (cursor : Nat) :
    (completeAt source around home line cursor = none ↔
        Utf8.size line < cursor ∨ ¬ Utf8.IsBoundary line cursor) ∧
      completeSliced source around home line cursor = completeAt source around home line cursor ∧
      ∀ before after, before ++ after = line → Utf8.size before = cursor →
        ∃ completion, completeAt source around home line cursor = some completion ∧
          completion.start ≤ cursor ∧ Utf8.IsBoundary line completion.start ∧
          (atCommand before = true → completion = commandNames source around before ∧
            BehindLastBlank before completion.start) ∧
          ∀ other, completeAt source around home (before ++ other) cursor = some completion := by
  refine ⟨?_, completeSliced_eq source around home line cursor, ?_⟩
  · rw [completeAt, Option.map_eq_none_iff, Utf8.splitAt_eq_none_iff]
    constructor
    · exact .inr
    · rintro (beyond | off)
      · intro boundary
        have within := boundary.le_size
        omega
      · exact off
  · rintro before after rfl rfl
    obtain ⟨front, word, joined, starts⟩ := exists_front_of_start source around home before
    refine ⟨_, completeAt_eq source around home before after, ?_, ?_, ?_,
      completeAt_eq source around home before⟩
    · have sized := congrArg Utf8.size joined
      rw [Utf8.size_append] at sized
      omega
    · rw [starts, ← joined, List.append_assoc]
      exact (Utf8.isBoundary_iff _ _).mpr ⟨front, word ++ after, rfl, rfl⟩
    · intro first
      rw [if_pos first]
      refine ⟨rfl, ?_⟩
      have starts : (commandNames source around before).start = Utf8.size (lead before) :=
        startOf_lastWord before
      rw [starts]
      exact behindLastBlank_lead before

/-- The line has a wide space before the word at the cursor and a letter of two bytes behind it. A cursor
within that letter or behind the line is refused. -/
theorem completeAt_span_wide :
    let before := "\u3000 ec".toList
    let after := "\u00E9 y".toList
    let complete := completeAt .environment ⟨none, Files.none⟩ []
    Utf8.size before = 6 ∧ atCommand before = true ∧
      complete (before ++ after) 7 = none ∧ complete (before ++ after) 11 = none ∧
      ∃ completion, complete (before ++ after) 6 = some completion ∧ completion.start ≤ 6 ∧
        Utf8.IsBoundary (before ++ after) completion.start ∧
        BehindLastBlank before completion.start ∧ complete before 6 = some completion := by
  intro before after complete
  have sized : Utf8.size before = 6 := by decide
  have first : atCommand before = true := by decide
  have within : ¬ Utf8.IsBoundary (before ++ after) 7 := (Utf8.splitAt_eq_none_iff _ _).mp (by decide)
  have beyond : Utf8.size (before ++ after) < 11 := by decide
  obtain ⟨-, -, spans⟩ :=
    completeAt_span .environment ⟨none, Files.none⟩ [] (before ++ after) 6
  obtain ⟨completion, completed, fits, boundary, commands, others⟩ := spans before after rfl sized
  have alone := others []
  rw [List.append_nil] at alone
  refine ⟨sized, first, ?_, ?_, completion, completed, fits, boundary, (commands first).2, alone⟩
  · exact (completeAt_span .environment ⟨none, Files.none⟩ [] (before ++ after) 7).1.mpr (.inr within)
  · exact (completeAt_span .environment ⟨none, Files.none⟩ [] (before ++ after) 11).1.mpr (.inl beyond)

end Completion

end CommandShell
