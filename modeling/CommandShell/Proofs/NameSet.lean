import CommandShell.NameSet
import CommandShell.Proofs.Utf8
import Mathlib.Data.List.Sort

/-!
The order of a set of names: strictly by their bytes, whatever order they were put in.
-/

set_option autoImplicit false

namespace CommandShell

theorem Text.precedes_iff (a b : Text) : a.precedes b = true ↔ Utf8.encode a < Utf8.encode b :=
  decide_eq_true_iff

/-- Of two different names one goes before the other. -/
theorem Text.precedes_or_precedes {a b : Text} (different : a ≠ b) :
    a.precedes b = true ∨ b.precedes a = true := by
  rw [precedes_iff, precedes_iff]
  by_contra neither
  obtain ⟨notBefore, notAfter⟩ := not_or.mp neither
  exact different (Utf8.encode_injective (List.le_antisymm notAfter notBefore))

namespace NameSet

/-- A list of names in the order of their bytes, and so without repetition. -/
def Ordered (names : List Text) : Prop :=
  names.Pairwise fun a b => Utf8.encode a < Utf8.encode b

theorem insert_ordered (name : Text) (names : List Text) (ordered : Ordered names) :
    Ordered (insert name names) := by
  induction names with
  | nil => exact List.pairwise_singleton _ name
  | cons first rest ih =>
    obtain ⟨least, later⟩ := List.pairwise_cons.mp ordered
    rw [insert]
    split
    next => exact ordered
    next different =>
      split
      next before =>
        have smaller := (Text.precedes_iff name first).mp before
        refine List.pairwise_cons.mpr ⟨?_, ordered⟩
        intro other member
        rcases List.mem_cons.mp member with rfl | within
        · exact smaller
        · exact List.lt_trans smaller (least other within)
      next notBefore =>
        refine List.pairwise_cons.mpr ⟨?_, ih later⟩
        intro other member
        rcases (mem_insert other name rest).mp member with rfl | within
        · have after := (Text.precedes_or_precedes different).resolve_left notBefore
          exact (Text.precedes_iff first other).mp after
        · exact least other within

theorem ofList_ordered (names : List Text) : Ordered (ofList names) := by
  induction names with
  | nil => exact List.Pairwise.nil
  | cons name rest ih => exact insert_ordered name (ofList rest) ih

theorem Ordered.filter {names : List Text} (ordered : Ordered names) (keeps : Text → Bool) :
    Ordered (names.filter keeps) :=
  List.Pairwise.filter keeps ordered

/-- In order, names are told by their members alone. -/
theorem Ordered.eq_of_mem_iff {first second : List Text} (ordered : Ordered first)
    (orderedToo : Ordered second) (same : ∀ name, name ∈ first ↔ name ∈ second) :
    first = second := by
  have irreflexive : Std.Irrefl fun a b : Text => Utf8.encode a < Utf8.encode b :=
    ⟨fun _ => List.lt_irrefl _⟩
  have antisymmetric : Std.Antisymm fun a b : Text => Utf8.encode a < Utf8.encode b :=
    ⟨fun _ _ before after => absurd (List.lt_trans before after) (List.lt_irrefl _)⟩
  exact List.Pairwise.eq_of_mem_iff ordered orderedToo same

end NameSet

end CommandShell
