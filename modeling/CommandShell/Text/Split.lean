/-!
Cutting a list at every separator.
-/

set_option autoImplicit false

namespace CommandShell

variable {α : Type}

/-- The stretches between separators, empty ones included: always one more than there are
separators. -/
def stretches (separates : α → Bool) : List α → List (List α)
  | [] => [[]]
  | a :: rest =>
    if separates a then [] :: stretches separates rest
    else (stretches separates rest).modifyHead (a :: ·)

/-- The stretches that hold something. -/
def pieces (separates : α → Bool) (as : List α) : List (List α) :=
  (stretches separates as).filter (!·.isEmpty)

theorem stretches_ne_nil (separates : α → Bool) (as : List α) : stretches separates as ≠ [] := by
  induction as with
  | nil => simp [stretches]
  | cons a rest ih =>
    simp only [stretches]
    split
    · simp
    · cases whole : stretches separates rest with
      | nil => exact absurd whole ih
      | cons first others => simp [List.modifyHead]

/-- A separator cuts: what stands before it and what stands after it are cut on their own. -/
theorem stretches_append_cons (separates : α → Bool) (front back : List α) (a : α)
    (cut : separates a = true) :
    stretches separates (front ++ a :: back) =
      stretches separates front ++ stretches separates back := by
  induction front with
  | nil => simp [stretches, cut]
  | cons b front ih =>
    simp only [List.cons_append, stretches, ih]
    split
    · rfl
    · cases whole : stretches separates front with
      | nil => exact absurd whole (stretches_ne_nil separates front)
      | cons first others => simp [List.modifyHead]

theorem pieces_append_cons (separates : α → Bool) (front back : List α) (a : α)
    (cut : separates a = true) :
    pieces separates (front ++ a :: back) = pieces separates front ++ pieces separates back := by
  simp [pieces, stretches_append_cons separates front back a cut]

end CommandShell
