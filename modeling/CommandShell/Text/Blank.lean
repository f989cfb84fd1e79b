import CommandShell.Text.Basic
import CommandShell.Text.Table

/-!
The white space that separates words.
-/

set_option autoImplicit false

namespace CommandShell

/-- The property White_Space. -/
def CharTable.blank : CharTable where
  boundaries := [
    0x9, 0xE, 0x20, 0x21, 0x85, 0x86, 0xA0, 0xA1, 0x1680, 0x1681, 0x2000, 0x200B, 0x2028, 0x202A,
    0x202F, 0x2030, 0x205F, 0x2060, 0x3000, 0x3001]

def isBlank (c : Char) : Bool := CharTable.blank.contains c

/-- The characters of the property, one by one. -/
def whiteSpace : List Char :=
  ['\u0009', '\u000A', '\u000B', '\u000C', '\u000D', '\u0020', '\u0085', '\u00A0', '\u1680',
    '\u2000', '\u2001', '\u2002', '\u2003', '\u2004', '\u2005', '\u2006', '\u2007', '\u2008',
    '\u2009', '\u200A', '\u2028', '\u2029', '\u202F', '\u205F', '\u3000']

theorem isBlank_iff (c : Char) : isBlank c = true ↔ c ∈ whiteSpace := by
  have values : whiteSpace.map Char.toNat =
      [0x9, 0xA, 0xB, 0xC, 0xD, 0x20, 0x85, 0xA0, 0x1680, 0x2000, 0x2001, 0x2002, 0x2003, 0x2004,
        0x2005, 0x2006, 0x2007, 0x2008, 0x2009, 0x200A, 0x2028, 0x2029, 0x202F, 0x205F, 0x3000] := rfl
  have listed : isBlank c = true ↔ c.toNat ∈ whiteSpace.map Char.toNat := by
    rw [values, isBlank, CharTable.blank]
    simp (disch := decide) only [CharTable.contains_cons_cons, CharTable.contains_nil,
      List.mem_cons, List.not_mem_nil, Bool.false_eq_true, and_false, or_false]
    omega
  rw [listed, List.mem_map]
  simp [Char.toNat_inj]

theorem isBlank_eq_false_iff (c : Char) : isBlank c = false ↔ c ∉ whiteSpace := by
  rw [← isBlank_iff, Bool.not_eq_true]

/-- Whether a text holds nothing but white space. -/
def Text.isBlank (t : Text) : Bool := t.all CommandShell.isBlank

theorem Text.isBlank_iff (t : Text) : t.isBlank = true ↔ ∀ c ∈ t, c ∈ whiteSpace := by
  simp only [isBlank, List.all_eq_true, CommandShell.isBlank_iff]

end CommandShell
