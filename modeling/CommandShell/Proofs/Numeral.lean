import CommandShell.Text.Decimal
import Mathlib.Data.List.Basic
import Mathlib.Data.Nat.Digits.Defs
import Mathlib.Tactic.Ring

/-!
Decimal numerals as they are written. A text is read as a number if it is a numeral of that number and the
number fits in 64 bits.
-/

set_option autoImplicit false

namespace CommandShell.Decimal

/-- An optional plus sign and at least one digit, zeros in front or not. -/
structure Numeral where
  plus : Bool
  digits : List (Fin 10)
  filled : digits ≠ []
  deriving DecidableEq

def digitChar (digit : Fin 10) : Char := Nat.digitChar digit

/-- The number that digits stand for, the first counting most. -/
def valueOf (digits : List (Fin 10)) : Nat := Nat.ofDigits 10 (digits.map Fin.val).reverse

namespace Numeral

def text (numeral : Numeral) : Text :=
  (if numeral.plus then ['+'] else []) ++ numeral.digits.map digitChar

def value (numeral : Numeral) : Nat := valueOf numeral.digits

end Numeral

theorem toNat_digitChar (digit : Fin 10) : (digitChar digit).toNat = 48 + digit :=
  Nat.toNat_digitChar_of_lt_ten digit.isLt

theorem digitChar_injective : Function.Injective digitChar := by
  intro first second same
  have values := congrArg Char.toNat same
  rw [toNat_digitChar, toNat_digitChar] at values
  omega

theorem digitChar_ne {c : Char} (below : c.toNat < 48) (digit : Fin 10) : digitChar digit ≠ c := by
  rintro rfl
  rw [toNat_digitChar] at below
  omega

/-- Digits and plus signs stand in a numeral, no other characters. -/
theorem Numeral.eq_plus_or_digit {numeral : Numeral} {c : Char} (member : c ∈ numeral.text) :
    c = '+' ∨ ∃ digit, digitChar digit = c := by
  rcases List.mem_append.mp member with sign | digits
  · cases signed : numeral.plus with
    | true => exact .inl (by simpa [signed] using sign)
    | false => simp [signed] at sign
  · obtain ⟨digit, -, same⟩ := List.mem_map.mp digits
    exact .inr ⟨digit, same⟩

theorem isDigit_iff (c : Char) : c.isDigit = true ↔ ∃ digit, digitChar digit = c := by
  have range : c.isDigit = true ↔ 48 ≤ c.toNat ∧ c.toNat ≤ 57 := Char.isDigit_iff_toNat
  rw [range]
  constructor
  · rintro ⟨low, high⟩
    refine ⟨⟨c.toNat - 48, by omega⟩, ?_⟩
    apply Char.toNat_inj.mp
    rw [toNat_digitChar]
    show 48 + (c.toNat - 48) = c.toNat
    omega
  · rintro ⟨digit, rfl⟩
    have least := digit.isLt
    rw [toNat_digitChar]
    omega

theorem valueOf_cons (digit : Fin 10) (rest : List (Fin 10)) :
    valueOf (digit :: rest) = digit * 10 ^ rest.length + valueOf rest := by
  rw [valueOf, List.map_cons, List.reverse_cons, Nat.ofDigits_append, Nat.ofDigits_singleton,
    List.length_reverse, List.length_map, valueOf]
  ring

theorem readDigits_cons (sofar : Nat) (digit : Fin 10) (rest : Text) :
    readDigits sofar (digitChar digit :: rest) =
      if sofar * 10 + digit < limit then readDigits (sofar * 10 + digit) rest
      else .error .tooLarge := by
  have next : sofar * 10 + ((digitChar digit).toNat - '0'.toNat) = sofar * 10 + digit := by
    rw [toNat_digitChar]
    show sofar * 10 + (48 + digit.val - 48) = sofar * 10 + digit.val
    omega
  rw [readDigits, if_pos ((isDigit_iff _).mpr ⟨digit, rfl⟩)]
  simp only [next]

theorem readDigits_of_not_digit (sofar : Nat) {c : Char} (rest : Text)
    (other : ¬ ∃ digit, digitChar digit = c) : readDigits sofar (c :: rest) = .error .notDigit := by
  rw [readDigits, if_neg]
  exact fun digit => other ((isDigit_iff c).mp digit)

/-- Digits are read from the left. What has been read only grows, so a number that is too large is noticed
at the first digit that makes it so. -/
theorem readDigits_eq_ok_iff (t : Text) (sofar n : Nat) (small : sofar < limit) :
    readDigits sofar t = .ok n ↔ ∃ digits : List (Fin 10), digits.map digitChar = t ∧
      sofar * 10 ^ digits.length + valueOf digits = n ∧ n < limit := by
  induction t generalizing sofar with
  | nil =>
    rw [readDigits, Except.ok.injEq]
    constructor
    · rintro rfl
      exact ⟨[], rfl, by simp [valueOf], small⟩
    · rintro ⟨digits, none_left, total, -⟩
      rw [List.map_eq_nil_iff] at none_left
      subst none_left
      simpa [valueOf] using total
  | cons c rest ih =>
    by_cases digit : ∃ digit, digitChar digit = c
    · obtain ⟨first, rfl⟩ := digit
      have total (others : List (Fin 10)) :
          sofar * 10 ^ (first :: others).length + valueOf (first :: others) =
            (sofar * 10 + first) * 10 ^ others.length + valueOf others := by
        rw [valueOf_cons, List.length_cons]
        ring
      have spelled (digits : List (Fin 10)) : digits.map digitChar = digitChar first :: rest ↔
          ∃ others, digits = first :: others ∧ others.map digitChar = rest := by
        rw [List.map_eq_cons_iff]
        constructor
        · rintro ⟨head, others, rfl, same, spelledRest⟩
          obtain rfl := digitChar_injective same
          exact ⟨others, rfl, spelledRest⟩
        · rintro ⟨others, rfl, spelledRest⟩
          exact ⟨first, others, rfl, rfl, spelledRest⟩
      rw [readDigits_cons]
      by_cases fits : sofar * 10 + first < limit
      · rw [if_pos fits, ih (sofar * 10 + first) fits]
        constructor
        · rintro ⟨others, spelledRest, sum, least⟩
          exact ⟨first :: others, (spelled _).mpr ⟨others, rfl, spelledRest⟩, by rw [total, sum], least⟩
        · rintro ⟨digits, whole, sum, least⟩
          obtain ⟨others, rfl, spelledRest⟩ := (spelled digits).mp whole
          exact ⟨others, spelledRest, by rw [← total, sum], least⟩
      · rw [if_neg fits]
        refine iff_of_false (by simp) ?_
        rintro ⟨digits, whole, sum, least⟩
        obtain ⟨others, rfl, -⟩ := (spelled digits).mp whole
        have grows : (sofar * 10 + first) * 1 ≤ (sofar * 10 + first) * 10 ^ others.length :=
          Nat.mul_le_mul_left _ (Nat.one_le_pow _ _ (by decide))
        rw [total] at sum
        omega
    · rw [readDigits_of_not_digit sofar rest digit]
      refine iff_of_false (by simp) ?_
      rintro ⟨digits, spelled, -, -⟩
      obtain ⟨head, others, rfl, same, -⟩ := List.map_eq_cons_iff.mp spelled
      exact digit ⟨head, same⟩

/-- A text with digits in it is read from its first digit on. -/
theorem parse_text (numeral : Numeral) :
    parse numeral.text = readDigits 0 (numeral.digits.map digitChar) := by
  obtain ⟨plus, digits, filled⟩ := numeral
  cases digits with
  | nil => exact absurd rfl filled
  | cons first others =>
    cases plus with
    | true => rfl
    | false =>
      have unsigned : digitChar first ≠ '+' := digitChar_ne (by decide) first
      show parse (digitChar first :: others.map digitChar) = _
      unfold parse
      split <;> simp_all

theorem numeral_of_parse {t : Text} {n : Nat} (read : parse t = .ok n) :
    ∃ numeral : Numeral, numeral.text = t := by
  -- What is read digit by digit, and is not empty, is the digits of a numeral.
  have spelled (plus : Bool) {rest : Text} (filled : rest ≠ []) (found : readDigits 0 rest = .ok n) :
      ∃ numeral : Numeral, numeral.plus = plus ∧ numeral.digits.map digitChar = rest := by
    obtain ⟨digits, rfl, -, -⟩ := (readDigits_eq_ok_iff rest 0 n (by decide)).mp found
    exact ⟨⟨plus, digits, fun empty => filled (by rw [empty]; rfl)⟩, rfl, rfl⟩
  unfold parse at read
  split at read
  · cases read
  · cases read
  next rest bare =>
    obtain ⟨numeral, signed, same⟩ := spelled true (by rintro rfl; exact bare rfl) read
    exact ⟨numeral, by rw [Numeral.text, signed, same]; rfl⟩
  next digits empty _ _ =>
    obtain ⟨numeral, unsigned, same⟩ := spelled false empty read
    exact ⟨numeral, by rw [Numeral.text, unsigned, same]; rfl⟩

/-- A text is read as a number if it is a numeral of it and the number is not too large. -/
theorem parse_eq_ok_iff (t : Text) (n : Nat) :
    parse t = .ok n ↔ ∃ numeral : Numeral, numeral.text = t ∧ numeral.value = n ∧ n < limit := by
  have zero : 0 < limit := by decide
  constructor
  · intro read
    obtain ⟨numeral, rfl⟩ := numeral_of_parse read
    rw [parse_text, readDigits_eq_ok_iff _ 0 n zero] at read
    obtain ⟨digits, spelled, total, fits⟩ := read
    have same : digits = numeral.digits := digitChar_injective.list_map spelled
    rw [Nat.zero_mul, Nat.zero_add, same] at total
    exact ⟨numeral, rfl, total, fits⟩
  · rintro ⟨numeral, rfl, total, fits⟩
    rw [parse_text, readDigits_eq_ok_iff _ 0 n zero]
    exact ⟨numeral.digits, rfl, by rw [Nat.zero_mul, Nat.zero_add]; exact total, fits⟩

end CommandShell.Decimal
