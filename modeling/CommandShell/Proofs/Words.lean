import CommandShell.Command

/-!
The words of a line: none of them is empty, and there are none exactly where all is white space.
-/

set_option autoImplicit false

namespace CommandShell

variable {α : Type}

theorem ne_nil_of_mem_pieces (separates : α → Bool) (as piece : List α)
    (member : piece ∈ pieces separates as) : piece ≠ [] := by
  have kept := (List.mem_filter.mp member).2
  rintro rfl
  simp at kept

theorem pieces_cons_of_separates (separates : α → Bool) (a : α) (rest : List α)
    (cut : separates a = true) : pieces separates (a :: rest) = pieces separates rest := by
  simp only [pieces, stretches, cut, ↓reduceIte]
  rfl

theorem pieces_cons_ne_nil (separates : α → Bool) (a : α) (rest : List α)
    (kept : separates a = false) : pieces separates (a :: rest) ≠ [] := by
  simp only [pieces, stretches, kept, Bool.false_eq_true, ↓reduceIte]
  cases whole : stretches separates rest with
  | nil => exact absurd whole (stretches_ne_nil separates rest)
  | cons first others => simp [List.modifyHead]

theorem pieces_eq_nil_iff (separates : α → Bool) (as : List α) :
    pieces separates as = [] ↔ as.all separates = true := by
  induction as with
  | nil => simp [pieces, stretches]
  | cons a rest ih =>
    cases cut : separates a with
    | true => rw [pieces_cons_of_separates _ _ _ cut, ih, List.all_cons, cut, Bool.true_and]
    | false => simp [cut, pieces_cons_ne_nil]

/-- A line asks for nothing exactly where it is white space. -/
theorem Command.isBlank_parse (line : Text) : (Command.parse line).isBlank = line.isBlank := by
  unfold Command.parse
  cases found : words line with
  | nil => exact ((pieces_eq_nil_iff _ line).mp found).symm
  | cons word arguments =>
    have filled : word ≠ [] := by
      apply ne_nil_of_mem_pieces CommandShell.isBlank line
      change word ∈ words line
      rw [found]
      exact List.mem_cons_self
    have some_kept : line.isBlank = false := by
      cases blank : line.isBlank with
      | false => rfl
      | true =>
        have none_found : words line = [] := (pieces_eq_nil_iff _ line).mpr blank
        rw [none_found] at found
        cases found
    rw [some_kept]
    simpa [Command.isBlank] using filled

end CommandShell
