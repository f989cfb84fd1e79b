import CommandShell.Proofs.Words

/-!
How a list is cut at its separators, told without the function that cuts: the stretches put together
again give the list, and the pieces are what stands between gaps.
-/

set_option autoImplicit false

namespace CommandShell

variable {α β : Type}

/-- A list is cut into pieces: none of them is empty or holds a separator, they stand in their order,
and between any two, and nowhere else but before the first and behind the last, there is a gap of
separators. -/
inductive Cut (separates : α → Bool) : List α → List (List α) → Prop
  | gap (gap : List α) (cuts : gap.all separates = true) : Cut separates gap []
  | piece (gap piece rest : List α) (others : List (List α)) (cuts : gap.all separates = true)
      (filled : piece ≠ []) (whole : ∀ a ∈ piece, separates a = false)
      (apart : ∀ a, rest.head? = some a → separates a = true) (later : Cut separates rest others) :
      Cut separates (gap ++ piece ++ rest) (piece :: others)

theorem stretches_of_whole (separates : α → Bool) (piece : List α)
    (whole : ∀ a ∈ piece, separates a = false) : stretches separates piece = [piece] := by
  induction piece with
  | nil => rfl
  | cons a rest ih =>
    have others := ih fun b member => whole b (List.mem_cons_of_mem a member)
    rw [stretches, whole a List.mem_cons_self, others]
    rfl

theorem pieces_of_whole (separates : α → Bool) (piece : List α) (filled : piece ≠ [])
    (whole : ∀ a ∈ piece, separates a = false) : pieces separates piece = [piece] := by
  rw [pieces, stretches_of_whole separates piece whole]
  cases piece with
  | nil => exact absurd rfl filled
  | cons a rest => rfl

theorem pieces_gap_append (separates : α → Bool) (gap rest : List α)
    (cuts : gap.all separates = true) : pieces separates (gap ++ rest) = pieces separates rest := by
  induction gap with
  | nil => rfl
  | cons a gap ih =>
    rw [List.all_cons, Bool.and_eq_true] at cuts
    rw [List.cons_append, pieces_cons_of_separates _ _ _ cuts.1, ih cuts.2]

theorem pieces_append_of_apart (separates : α → Bool) (piece rest : List α) (filled : piece ≠ [])
    (whole : ∀ a ∈ piece, separates a = false)
    (apart : ∀ a, rest.head? = some a → separates a = true) :
    pieces separates (piece ++ rest) = piece :: pieces separates rest := by
  cases rest with
  | nil => rw [List.append_nil, pieces_of_whole separates piece filled whole]; rfl
  | cons a rest =>
    have cut := apart a rfl
    rw [pieces_append_cons _ _ _ _ cut, pieces_of_whole separates piece filled whole,
      pieces_cons_of_separates _ _ _ cut, List.singleton_append]

/-- A list is cut in one way only. -/
theorem Cut.pieces_eq {separates : α → Bool} {as : List α} {found : List (List α)}
    (cut : Cut separates as found) : pieces separates as = found := by
  induction cut with
  | gap gap cuts => exact (pieces_eq_nil_iff separates gap).mpr cuts
  | piece gap piece rest others cuts filled whole apart later ih =>
    rw [List.append_assoc, pieces_gap_append _ _ _ cuts,
      pieces_append_of_apart _ _ _ filled whole apart, ih]

/-- Every list can be cut. An element more in front widens the gap, or makes the first piece longer,
or is a piece of its own. -/
theorem exists_cut (separates : α → Bool) (as : List α) : ∃ found, Cut separates as found := by
  induction as with
  | nil => exact ⟨[], .gap [] rfl⟩
  | cons a rest ih =>
    obtain ⟨found, cut⟩ := ih
    cases separate : separates a with
    | true =>
      cases cut with
      | gap _ cuts => exact ⟨[], .gap (a :: rest) (by rw [List.all_cons, separate, cuts]; rfl)⟩
      | piece gap piece rest others cuts filled whole apart later =>
        have wider : (a :: gap).all separates = true := by rw [List.all_cons, separate, cuts]; rfl
        exact ⟨_, .piece (a :: gap) piece rest others wider filled whole apart later⟩
    | false =>
      have single : ∀ b ∈ [a], separates b = false := by
        intro b member
        rw [List.mem_singleton.mp member, separate]
      -- A separator next to it makes the element a piece of its own.
      have alone (first : α) (others : List α) (cuts : separates first = true)
          (later : Cut separates (first :: others) found) :
          ∃ found, Cut separates (a :: first :: others) found := by
        refine ⟨_, .piece [] [a] (first :: others) found rfl (List.cons_ne_nil a []) single ?_ later⟩
        intro b head
        rw [← Option.some.inj head]
        exact cuts
      cases cut with
      | gap _ cuts =>
        cases rest with
        | nil =>
          exact ⟨_, .piece [] [a] [] [] rfl (List.cons_ne_nil a []) single (by simp) (.gap [] rfl)⟩
        | cons first others =>
          have next : separates first = true := (Bool.and_eq_true_iff.mp cuts).1
          exact alone first others next (.gap _ cuts)
      | piece gap piece rest others cuts filled whole apart later =>
        cases gap with
        | nil =>
          refine ⟨_, .piece [] (a :: piece) rest others rfl (List.cons_ne_nil a piece) ?_ apart later⟩
          intro b member
          rcases List.mem_cons.mp member with rfl | within
          · exact separate
          · exact whole b within
        | cons first gap =>
          have next : separates first = true := (Bool.and_eq_true_iff.mp cuts).1
          exact alone first _ next
            (.piece (first :: gap) piece rest others cuts filled whole apart later)

theorem cut_pieces (separates : α → Bool) (as : List α) : Cut separates as (pieces separates as) := by
  obtain ⟨found, cut⟩ := exists_cut separates as
  rw [cut.pieces_eq]
  exact cut

/-- No separator is left within a piece. -/
theorem whole_of_mem_pieces (separates : α → Bool) (as piece : List α)
    (member : piece ∈ pieces separates as) : ∀ a ∈ piece, separates a = false := by
  have cut := cut_pieces separates as
  generalize pieces separates as = found at cut member
  induction cut with
  | gap gap cuts => cases member
  | piece gap first rest others cuts filled whole apart later ih =>
    rcases List.mem_cons.mp member with rfl | among
    · exact whole
    · exact ih among

/-- What stands behind a separator, or at the beginning, and holds none is the last piece. -/
theorem pieces_append_piece (separates : α → Bool) (front piece : List α)
    (ends : ∀ a, front.getLast? = some a → separates a = true) (filled : piece ≠ [])
    (whole : ∀ a ∈ piece, separates a = false) :
    pieces separates (front ++ piece) = pieces separates front ++ [piece] := by
  rcases List.eq_nil_or_concat front with rfl | ⟨before, a, rfl⟩
  · exact pieces_of_whole separates piece filled whole
  · have cut : separates a = true := ends a (by simp)
    have alone : pieces separates (before.concat a) = pieces separates before := by
      rw [List.concat_eq_append, pieces_append_cons _ _ _ _ cut]
      exact List.append_nil _
    rw [alone, List.concat_append, pieces_append_cons _ _ _ _ cut,
      pieces_of_whole separates piece filled whole]

/-- The stretches between separators hold none, and with one separator between any two they are the
list again. -/
theorem intercalate_stretches [DecidableEq α] (separator : α) (as : List α) :
    [separator].intercalate (stretches (· == separator) as) = as ∧
      ∀ stretch ∈ stretches (· == separator) as, separator ∉ stretch := by
  induction as with
  | nil => simp [stretches, List.intercalate]
  | cons a rest ih =>
    obtain ⟨joined, free⟩ := ih
    rw [stretches]
    split
    next separate =>
      rw [beq_iff_eq.mp separate]
      constructor
      · rw [List.intercalate_cons_of_ne_nil (stretches_ne_nil _ _), joined]
        rfl
      · simpa using free
    next kept =>
      have other : separator ≠ a := by
        rintro rfl
        simp at kept
      cases whole : stretches (· == separator) rest with
      | nil => exact absurd whole (stretches_ne_nil _ _)
      | cons first others =>
        rw [whole] at joined free
        constructor
        · rw [List.modifyHead_cons, List.intercalate_cons_cons_left, joined]
        · simpa [other] using free

/-- Lists that hold no separator are the stretches of what they make with one separator between any
two. -/
theorem stretches_joined (separates : α → Bool) (separator : α) (cuts : separates separator = true)
    (entries : List (List α)) (filled : entries ≠ [])
    (whole : ∀ entry ∈ entries, ∀ a ∈ entry, separates a = false) :
    stretches separates ([separator].intercalate entries) = entries := by
  induction entries with
  | nil => exact absurd rfl filled
  | cons entry rest ih =>
    have first := stretches_of_whole separates entry (whole entry List.mem_cons_self)
    cases rest with
    | nil => rw [List.intercalate_singleton, first]
    | cons next later =>
      have others := ih (List.cons_ne_nil next later)
        (fun other member => whole other (List.mem_cons_of_mem entry member))
      rw [List.intercalate_cons_cons, List.append_assoc, List.singleton_append,
        stretches_append_cons separates entry _ separator cuts, first, others, List.singleton_append]

theorem whole_of_not_mem [DecidableEq α] {separator : α} {entry : List α} (free : separator ∉ entry) :
    ∀ a ∈ entry, (a == separator) = false := by
  intro a within
  rw [beq_eq_false_iff_ne]
  rintro rfl
  exact free within

theorem stretches_intercalate [DecidableEq α] (separator : α) (entries : List (List α))
    (filled : entries ≠ []) (free : ∀ entry ∈ entries, separator ∉ entry) :
    stretches (· == separator) ([separator].intercalate entries) = entries :=
  stretches_joined (· == separator) separator (beq_self_eq_true separator) entries filled
    fun entry member => whole_of_not_mem (free entry member)

/-- Of lists that were put together with one separator between any two, those that hold something are
the pieces. -/
theorem pieces_joined (separates : α → Bool) (separator : α) (cuts : separates separator = true)
    (entries : List (List α)) (whole : ∀ entry ∈ entries, ∀ a ∈ entry, separates a = false) :
    pieces separates ([separator].intercalate entries) = entries.filter (!·.isEmpty) := by
  cases entries with
  | nil => rfl
  | cons entry rest =>
    rw [pieces, stretches_joined separates separator cuts _ (List.cons_ne_nil entry rest) whole]

theorem flatten_stretches (separates : α → Bool) (as : List α) :
    (stretches separates as).flatten = as.filter (!separates ·) := by
  induction as with
  | nil => rfl
  | cons a rest ih =>
    rw [stretches, List.filter_cons]
    cases cut : separates a with
    | true => simpa using ih
    | false =>
      cases found : stretches separates rest with
      | nil => exact absurd found (stretches_ne_nil separates rest)
      | cons first others =>
        rw [found] at ih
        simp [← ih]

/-- Cutting drops the separators, and nothing else. -/
theorem flatten_pieces (separates : α → Bool) (as : List α) :
    (pieces separates as).flatten = as.filter (!separates ·) := by
  rw [pieces, List.flatten_filter_not_isEmpty, flatten_stretches]

theorem stretches_map (separates : β → Bool) (change : α → β) (as : List α) :
    stretches separates (as.map change) =
      (stretches (fun a => separates (change a)) as).map (List.map change) := by
  induction as with
  | nil => rfl
  | cons a rest ih =>
    rw [List.map_cons, stretches, stretches, ih]
    cases separates (change a) with
    | true => rfl
    | false =>
      cases stretches (fun a => separates (change a)) rest with
      | nil => rfl
      | cons first others => rfl

/-- Where a list is cut depends only on which of its elements are separators. -/
theorem pieces_map (separates : β → Bool) (change : α → β) (as : List α) :
    pieces separates (as.map change) =
      (pieces (fun a => separates (change a)) as).map (List.map change) := by
  rw [pieces, pieces, stretches_map, List.filter_map]
  congr 2
  funext stretch
  simp

end CommandShell
