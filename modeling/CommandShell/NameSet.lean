import CommandShell.Text.Utf8

/-!
Sets of names, kept as lists that strictly increase in the order of their bytes.
-/

set_option autoImplicit false

namespace CommandShell

/-- Names are ordered by their bytes. -/
def Text.precedes (a b : Text) : Bool := decide (Utf8.encode a < Utf8.encode b)

namespace NameSet

/-- Puts a name in its place, unless it is there already. -/
def insert (name : Text) : List Text → List Text
  | [] => [name]
  | first :: rest =>
    if name = first then first :: rest
    else if name.precedes first then name :: first :: rest
    else first :: insert name rest

def ofList (names : List Text) : List Text := names.foldr insert []

theorem mem_insert (wanted name : Text) (names : List Text) :
    wanted ∈ insert name names ↔ wanted = name ∨ wanted ∈ names := by
  induction names with
  | nil => simp [insert]
  | cons first rest ih =>
    simp only [insert]
    split
    next same => subst same; simp
    next different =>
      split
      · simp
      · simp only [List.mem_cons, ih]
        constructor
        · rintro (h | h | h)
          · exact Or.inr (Or.inl h)
          · exact Or.inl h
          · exact Or.inr (Or.inr h)
        · rintro (h | h | h)
          · exact Or.inr (Or.inl h)
          · exact Or.inl h
          · exact Or.inr (Or.inr h)

theorem mem_ofList (wanted : Text) (names : List Text) : wanted ∈ ofList names ↔ wanted ∈ names := by
  induction names with
  | nil => simp [ofList]
  | cons name rest ih =>
    have step : ofList (name :: rest) = insert name (ofList rest) := rfl
    rw [step, mem_insert, ih, List.mem_cons]

end NameSet

end CommandShell
