/-!
Sets of code points, kept as the increasing list of the points where membership changes.
-/

set_option autoImplicit false

namespace CommandShell

/-- The list `[a, b, c, d]` stands for the code points from `a` up to `b` and from `c` up to `d`,
the right ends excluded. -/
structure CharTable where
  boundaries : List Nat

/-- A code point is in the set when an odd number of boundaries is at or below it. -/
def CharTable.contains (table : CharTable) (c : Char) : Bool :=
  (table.boundaries.takeWhile (· ≤ c.toNat)).length % 2 == 1

theorem CharTable.contains_nil (c : Char) : contains ⟨[]⟩ c = false := rfl

/-- A pair of boundaries takes in what lies from the first of them up to the second. -/
theorem CharTable.contains_cons_cons (first next : Nat) (rest : List Nat) (c : Char)
    (increasing : first ≤ next) :
    contains ⟨first :: next :: rest⟩ c = true ↔
      first ≤ c.toNat ∧ c.toNat < next ∨ next ≤ c.toNat ∧ contains ⟨rest⟩ c = true := by
  simp only [contains, beq_iff_eq]
  by_cases reached : first ≤ c.toNat
  · by_cases passed : next ≤ c.toNat
    · have below : ¬ c.toNat < next := by omega
      simp only [List.takeWhile_cons, reached, passed, below, decide_true, ↓reduceIte,
        List.length_cons, and_false, true_and, false_or]
      omega
    · have below : c.toNat < next := by omega
      simp [reached, passed, below]
  · have outside : ¬ next ≤ c.toNat := by omega
    simp [reached, outside]

end CommandShell
