import CommandShell.Proofs.Utf8

/-!
Where the bytes of a text may be cut: the byte there tells, and a text is cut there between two characters.
-/

set_option autoImplicit false

namespace CommandShell.Utf8

/-- An offset where a character begins, or the text ends. -/
def IsBoundary (t : Text) (offset : Nat) : Prop :=
  offset = size t ∨ ∃ b, (encode t)[offset]? = some b ∧ ¬ Follows b

/-- A character begins with a byte of its own kind, and goes on with others. -/
theorem encodeChar_eq_cons (c : Char) :
    ∃ lead others, encodeChar c = lead :: others ∧ ¬ Follows lead ∧ ∀ b ∈ others, Follows b := by
  have spelled := spelled_encodeChar c
  generalize encodeChar c = bytes at spelled
  cases spelled with
  | one lead ascii =>
    refine ⟨lead, [], rfl, ?_, by simp⟩
    rintro ⟨_, _⟩
    omega
  | two lead next least most follows =>
    refine ⟨lead, [next], rfl, ?_, by simpa using follows⟩
    rintro ⟨_, _⟩
    omega
  | three lead second third least most within follows =>
    refine ⟨lead, [second, third], rfl, ?_, by simpa using ⟨within.follows, follows⟩⟩
    rintro ⟨_, _⟩
    omega
  | four lead second third fourth least most within follows last =>
    refine ⟨lead, [second, third, fourth], rfl, ?_, by simpa using ⟨within.follows, follows, last⟩⟩
    rintro ⟨_, _⟩
    omega

/-- A character is cut at its beginning or behind it, and nowhere between. -/
theorem isBoundary_cons_iff (c : Char) (rest : Text) (offset : Nat) :
    IsBoundary (c :: rest) offset ↔
      offset = 0 ∨
        (encodeChar c).length ≤ offset ∧ IsBoundary rest (offset - (encodeChar c).length) := by
  obtain ⟨lead, others, spelled, leads, follow⟩ := encodeChar_eq_cons c
  have counted : (encodeChar c).length = others.length + 1 := by rw [spelled, List.length_cons]
  rw [IsBoundary, IsBoundary, encode_cons, size_cons]
  by_cases beyond : (encodeChar c).length ≤ offset
  · have later : offset ≠ 0 := by omega
    have ends : offset = (encodeChar c).length + size rest ↔
        offset - (encodeChar c).length = size rest := by omega
    rw [List.getElem?_append_right beyond, ends]
    simp only [later, beyond, false_or, true_and]
  · have short : offset ≠ (encodeChar c).length + size rest := by omega
    have inside : offset < (encodeChar c).length := by omega
    rw [List.getElem?_append_left inside]
    simp only [short, beyond, false_or, false_and, or_false]
    rw [spelled]
    cases offset with
    | zero => simpa using leads
    | succ offset =>
      rw [List.getElem?_cons_succ]
      constructor
      · rintro ⟨b, found, begins⟩
        exact absurd (follow b (List.mem_of_getElem? found)) begins
      · intro first
        cases first

/-- The boundaries of a text are the sizes of its fronts. -/
theorem isBoundary_iff (t : Text) (offset : Nat) :
    IsBoundary t offset ↔ ∃ before after, before ++ after = t ∧ size before = offset := by
  induction t generalizing offset with
  | nil =>
    simp only [IsBoundary, encode_nil, List.getElem?_nil, reduceCtorEq, false_and, exists_false,
      or_false, List.append_eq_nil_iff]
    constructor
    · rintro rfl
      exact ⟨[], [], ⟨rfl, rfl⟩, rfl⟩
    · rintro ⟨before, after, ⟨rfl, rfl⟩, sized⟩
      exact sized.symm
  | cons c rest ih =>
    rw [isBoundary_cons_iff, ih]
    constructor
    · rintro (rfl | ⟨fits, before, after, rfl, sized⟩)
      · exact ⟨[], c :: rest, rfl, rfl⟩
      · refine ⟨c :: before, after, rfl, ?_⟩
        rw [size_cons]
        omega
    · rintro ⟨before, after, joined, sized⟩
      cases before with
      | nil => exact .inl sized.symm
      | cons first before =>
        obtain ⟨rfl, others⟩ := List.cons.inj joined
        rw [size_cons] at sized
        exact .inr ⟨by omega, before, after, others, by omega⟩

theorem IsBoundary.le_size {t : Text} {offset : Nat} (boundary : IsBoundary t offset) :
    offset ≤ size t := by
  obtain ⟨before, after, rfl, rfl⟩ := (isBoundary_iff t offset).mp boundary
  rw [size_append]
  omega

/-- A text is cut at its boundaries, and nowhere else. -/
theorem splitAt_eq_none_iff (offset : Nat) (t : Text) :
    splitAt offset t = none ↔ ¬ IsBoundary t offset := by
  rw [isBoundary_iff]
  constructor
  · rintro uncut ⟨before, after, cut⟩
    rw [(splitAt_eq_some_iff offset t before after).mpr cut] at uncut
    cases uncut
  · intro nowhere
    cases cut : splitAt offset t with
    | none => rfl
    | some parts =>
      exact absurd ⟨parts.1, parts.2, (splitAt_eq_some_iff offset t parts.1 parts.2).mp cut⟩ nowhere

end CommandShell.Utf8
