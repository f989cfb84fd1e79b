import CommandShell.Text.Utf8
import Mathlib.Data.List.Basic
import Mathlib.Tactic.SplitIfs

/-!
Text and bytes. What is written reads back as it was, reading loses no byte, and so bytes are read as
text only if they are what that text is written as.
-/

set_option autoImplicit false

namespace CommandShell.Utf8

/-- The least byte that may follow a byte that begins a character. -/
def lowAfter (lead : Nat) : UInt8 :=
  if lead = 0xE0 then 0xA0 else if lead = 0xF0 then 0x90 else 0x80

/-- The greatest byte that may follow a byte that begins a character. -/
def highAfter (lead : Nat) : UInt8 :=
  if lead = 0xED then 0x9F else if lead = 0xF4 then 0x8F else 0xBF

/-- The table of first bytes, in the order of their values. -/
theorem begin_eq (b : UInt8) :
    begin b =
      if b.toNat < 0x80 then ([.char (Char.ofNat b.toNat)], none)
      else if b.toNat < 0xC2 then ([.broken [b]], none)
      else if b.toNat < 0xE0 then ([], some ⟨[b], b.toNat - 0xC0, 1, 0x80, 0xBF⟩)
      else if b.toNat < 0xF0 then
        ([], some ⟨[b], b.toNat - 0xE0, 2, lowAfter b.toNat, highAfter b.toNat⟩)
      else if b.toNat < 0xF5 then
        ([], some ⟨[b], b.toNat - 0xF0, 3, lowAfter b.toNat, highAfter b.toNat⟩)
      else ([.broken [b]], none) := by
  simp only [begin, UInt8.lt_iff_toNat_lt, UInt8.le_iff_toNat_le, ← UInt8.toNat_inj,
    Bool.and_eq_true, decide_eq_true_eq, lowAfter, highAfter, UInt8.reduceToNat]
  -- The ranges of the first byte, split further where a single byte narrows what may follow.
  have ranges : b.toNat < 0x80 ∨ 0x80 ≤ b.toNat ∧ b.toNat < 0xC2 ∨
      0xC2 ≤ b.toNat ∧ b.toNat < 0xE0 ∨ b.toNat = 0xE0 ∨ b.toNat = 0xED ∨
      0xE0 < b.toNat ∧ b.toNat < 0xF0 ∧ b.toNat ≠ 0xED ∨ b.toNat = 0xF0 ∨ b.toNat = 0xF4 ∨
      0xF0 < b.toNat ∧ b.toNat < 0xF4 ∨ 0xF4 < b.toNat := by omega
  rcases ranges with range | range | range | range | range | range | range | range | range | range <;>
    simp (disch := omega) only [if_pos, if_neg]

/-- A value with the six bits of another byte behind it. -/
def shift (value : Nat) (b : UInt8) : Nat := value * 64 + (b.toNat - 0x80)

theorem toNat_ofNat {value : Nat} (valid : value.isValidChar) :
    (Char.ofNat value).val.toNat = value := by
  rw [Char.ofNat, dif_pos valid]
  rfl

theorem encodeChar_ofNat {value : Nat} (valid : value.isValidChar) :
    encodeChar (Char.ofNat value) =
      if value ≤ 0x7F then [UInt8.ofNat value]
      else if value ≤ 0x7FF then
        [UInt8.ofNat (value / 64 % 0x20 + 0xC0), UInt8.ofNat (value % 0x40 + 0x80)]
      else if value ≤ 0xFFFF then
        [UInt8.ofNat (value / 4096 % 0x10 + 0xE0), UInt8.ofNat (value / 64 % 0x40 + 0x80),
          UInt8.ofNat (value % 0x40 + 0x80)]
      else
        [UInt8.ofNat (value / 262144 % 0x08 + 0xF0), UInt8.ofNat (value / 4096 % 0x40 + 0x80),
          UInt8.ofNat (value / 64 % 0x40 + 0x80), UInt8.ofNat (value % 0x40 + 0x80)] := by
  rw [encodeChar, String.utf8EncodeChar, toNat_ofNat valid]

/-- Whether a byte goes on with a character rather than begin one. -/
def Follows (b : UInt8) : Prop := 0x80 ≤ b.toNat ∧ b.toNat < 0xC0

theorem eq_ofNat {b : UInt8} {value : Nat} (same : value = b.toNat) : UInt8.ofNat value = b := by
  rw [same, UInt8.ofNat_toNat]

/-- A byte in the range that a lead byte leaves goes on with the character; four lead bytes narrow the
range. -/
structure Second (lead : Nat) (b : UInt8) : Prop where
  follows : Follows b
  notOverlong : (lead = 0xE0 → 0xA0 ≤ b.toNat) ∧ (lead = 0xF0 → 0x90 ≤ b.toNat)
  notTooLarge : (lead = 0xED → b.toNat < 0xA0) ∧ (lead = 0xF4 → b.toNat < 0x90)

theorem second_iff (lead : Nat) (b : UInt8) :
    Second lead b ↔ lowAfter lead ≤ b ∧ b ≤ highAfter lead := by
  rw [UInt8.le_iff_toNat_le, UInt8.le_iff_toNat_le, lowAfter, highAfter]
  constructor
  · rintro ⟨⟨_, _⟩, ⟨_, _⟩, ⟨_, _⟩⟩
    constructor <;> split_ifs <;> simp only [UInt8.reduceToNat] <;> omega
  · rintro ⟨low, high⟩
    refine ⟨⟨?_, ?_⟩, ⟨?_, ?_⟩, ⟨?_, ?_⟩⟩ <;> split_ifs at low high <;>
      simp only [UInt8.reduceToNat] at low high <;> omega

/-- The ways a character is spelled, in one byte up to four. -/
inductive Spelled : Char → Bytes → Prop
  | one (b : UInt8) (ascii : b.toNat < 0x80) : Spelled (Char.ofNat b.toNat) [b]
  | two (lead next : UInt8) (least : 0xC2 ≤ lead.toNat) (most : lead.toNat < 0xE0)
      (follows : Follows next) :
      Spelled (Char.ofNat (shift (lead.toNat - 0xC0) next)) [lead, next]
  | three (lead second third : UInt8) (least : 0xE0 ≤ lead.toNat) (most : lead.toNat < 0xF0)
      (within : Second lead.toNat second) (follows : Follows third) :
      Spelled (Char.ofNat (shift (shift (lead.toNat - 0xE0) second) third)) [lead, second, third]
  | four (lead second third fourth : UInt8) (least : 0xF0 ≤ lead.toNat) (most : lead.toNat < 0xF5)
      (within : Second lead.toNat second) (follows : Follows third) (last : Follows fourth) :
      Spelled (Char.ofNat (shift (shift (shift (lead.toNat - 0xF0) second) third) fourth))
        [lead, second, third, fourth]

/-- No character is spelled in another way. -/
theorem Spelled.encodeChar_eq {c : Char} {bytes : Bytes} (spelled : Spelled c bytes) :
    encodeChar c = bytes := by
  cases spelled with
  | one b ascii =>
    have valid : b.toNat.isValidChar := by
      left
      omega
    rw [encodeChar_ofNat valid, if_pos (by omega), UInt8.ofNat_toNat]
  | two lead next least most follows =>
    obtain ⟨_, _⟩ := follows
    unfold shift
    have valid : ((lead.toNat - 0xC0) * 64 + (next.toNat - 0x80)).isValidChar := by
      left
      omega
    rw [encodeChar_ofNat valid, if_neg (by omega), if_pos (by omega), eq_ofNat (b := lead) (by omega),
      eq_ofNat (b := next) (by omega)]
  | three lead second third least most within follows =>
    obtain ⟨⟨_, _⟩, ⟨_, _⟩, ⟨_, _⟩⟩ := within
    obtain ⟨_, _⟩ := follows
    unfold shift
    have valid : (((lead.toNat - 0xE0) * 64 + (second.toNat - 0x80)) * 64 +
        (third.toNat - 0x80)).isValidChar := by
      unfold Nat.isValidChar
      omega
    rw [encodeChar_ofNat valid, if_neg (by omega), if_neg (by omega), if_pos (by omega),
      eq_ofNat (b := lead) (by omega), eq_ofNat (b := second) (by omega),
      eq_ofNat (b := third) (by omega)]
  | four lead second third fourth least most within follows last =>
    obtain ⟨⟨_, _⟩, ⟨_, _⟩, ⟨_, _⟩⟩ := within
    obtain ⟨_, _⟩ := follows
    obtain ⟨_, _⟩ := last
    unfold shift
    have valid : ((((lead.toNat - 0xF0) * 64 + (second.toNat - 0x80)) * 64 +
        (third.toNat - 0x80)) * 64 + (fourth.toNat - 0x80)).isValidChar := by
      unfold Nat.isValidChar
      omega
    rw [encodeChar_ofNat valid, if_neg (by omega), if_neg (by omega), if_neg (by omega),
      eq_ofNat (b := lead) (by omega), eq_ofNat (b := second) (by omega),
      eq_ofNat (b := third) (by omega), eq_ofNat (b := fourth) (by omega)]

/-- Every character is spelled in one of these ways. -/
theorem spelled_encodeChar (c : Char) : Spelled c (encodeChar c) := by
  obtain ⟨value, same⟩ : ∃ value, value = c.val.toNat := ⟨_, rfl⟩
  have valid : value.isValidChar := same ▸ c.valid
  have back : c = Char.ofNat value := by
    rw [same]
    exact (Char.ofNat_toNat c).symm
  have bounds : value < 0xD800 ∨ 0xDFFF < value ∧ value < 0x110000 := valid
  rw [back, encodeChar_ofNat valid]
  -- One case for each length; the arithmetic puts the value together again from its six-bit groups.
  split_ifs with one two three
  · have first := UInt8.toNat_ofNat_of_lt' (show value < 256 by omega)
    have spelled := Spelled.one (UInt8.ofNat value) (by omega)
    rwa [first] at spelled
  · have first := UInt8.toNat_ofNat_of_lt' (show value / 64 % 0x20 + 0xC0 < 256 by omega)
    have next := UInt8.toNat_ofNat_of_lt' (show value % 0x40 + 0x80 < 256 by omega)
    have spelled := Spelled.two (UInt8.ofNat (value / 64 % 0x20 + 0xC0))
      (UInt8.ofNat (value % 0x40 + 0x80)) (by omega) (by omega) ⟨by omega, by omega⟩
    have whole : shift (value / 64 % 0x20 + 0xC0 - 0xC0) (UInt8.ofNat (value % 0x40 + 0x80)) = value := by
      unfold shift
      omega
    rwa [first, whole] at spelled
  · have first := UInt8.toNat_ofNat_of_lt' (show value / 4096 % 0x10 + 0xE0 < 256 by omega)
    have second := UInt8.toNat_ofNat_of_lt' (show value / 64 % 0x40 + 0x80 < 256 by omega)
    have third := UInt8.toNat_ofNat_of_lt' (show value % 0x40 + 0x80 < 256 by omega)
    have spelled := Spelled.three (UInt8.ofNat (value / 4096 % 0x10 + 0xE0))
      (UInt8.ofNat (value / 64 % 0x40 + 0x80)) (UInt8.ofNat (value % 0x40 + 0x80))
      (by omega) (by omega) ⟨⟨by omega, by omega⟩, ⟨by omega, by omega⟩, ⟨by omega, by omega⟩⟩
      ⟨by omega, by omega⟩
    have whole : shift (shift (value / 4096 % 0x10 + 0xE0 - 0xE0)
        (UInt8.ofNat (value / 64 % 0x40 + 0x80))) (UInt8.ofNat (value % 0x40 + 0x80)) = value := by
      unfold shift
      omega
    rwa [first, whole] at spelled
  · have first := UInt8.toNat_ofNat_of_lt' (show value / 262144 % 0x08 + 0xF0 < 256 by omega)
    have second := UInt8.toNat_ofNat_of_lt' (show value / 4096 % 0x40 + 0x80 < 256 by omega)
    have third := UInt8.toNat_ofNat_of_lt' (show value / 64 % 0x40 + 0x80 < 256 by omega)
    have fourth := UInt8.toNat_ofNat_of_lt' (show value % 0x40 + 0x80 < 256 by omega)
    have spelled := Spelled.four (UInt8.ofNat (value / 262144 % 0x08 + 0xF0))
      (UInt8.ofNat (value / 4096 % 0x40 + 0x80)) (UInt8.ofNat (value / 64 % 0x40 + 0x80))
      (UInt8.ofNat (value % 0x40 + 0x80)) (by omega) (by omega)
      ⟨⟨by omega, by omega⟩, ⟨by omega, by omega⟩, ⟨by omega, by omega⟩⟩ ⟨by omega, by omega⟩
      ⟨by omega, by omega⟩
    have whole : shift (shift (shift (value / 262144 % 0x08 + 0xF0 - 0xF0)
        (UInt8.ofNat (value / 4096 % 0x40 + 0x80))) (UInt8.ofNat (value / 64 % 0x40 + 0x80)))
        (UInt8.ofNat (value % 0x40 + 0x80)) = value := by
      unfold shift
      omega
    rwa [first, whole] at spelled

theorem follows_of_plain {b : UInt8} (low : 0x80 ≤ b) (high : b ≤ 0xBF) : Follows b := by
  simp only [UInt8.le_iff_toNat_le, UInt8.reduceToNat] at low high
  exact ⟨low, by omega⟩

theorem plain_range : 0x80 ≤ (0x80 : UInt8).toNat ∧ (0xBF : UInt8).toNat < 0xC0 := by decide

/-- Bytes that have begun a character, with what is known of it: whatever bytes in the given ranges
follow, all of them spell a character. -/
structure Begun.Leads (begun : Begun) : Prop where
  missing : 0 < begun.missing
  range : 0x80 ≤ begun.low.toNat ∧ begun.high.toNat < 0xC0
  large : ∀ b ∈ begun.bytes, 0x80 ≤ b.toNat
  filled : begun.bytes ≠ []
  spelled : ∀ b others, begun.low ≤ b → b ≤ begun.high → (∀ other ∈ others, Follows other) →
    others.length + 1 = begun.missing →
    Spelled (Char.ofNat ((b :: others).foldl shift begun.value)) (begun.bytes ++ b :: others)

theorem after_range (lead : Nat) :
    0x80 ≤ (lowAfter lead).toNat ∧ (highAfter lead).toNat < 0xC0 := by
  unfold lowAfter highAfter
  split_ifs <;> decide

/-- What a byte is where a character may begin. -/
inductive Begins (b : UInt8) : List Piece × Option Begun → Prop
  | ascii (small : b.toNat < 0x80) : Begins b ([.char (Char.ofNat b.toNat)], none)
  | stray (large : 0x80 ≤ b.toNat) : Begins b ([.broken [b]], none)
  | lead (begun : Begun) (large : 0x80 ≤ b.toNat) (leads : begun.Leads) (same : begun.bytes = [b]) :
      Begins b ([], some begun)

theorem begin_cases (b : UInt8) : Begins b (begin b) := by
  rw [begin_eq]
  split_ifs with ascii early two three four
  · exact .ascii ascii
  · exact .stray (by omega)
  · refine .lead _ (by omega) ⟨Nat.one_pos, plain_range, ?_, List.cons_ne_nil _ _, ?_⟩ rfl
    · simpa using ascii
    · intro next others low high follow counted
      obtain rfl : others = [] := by simpa using counted
      exact .two b next (by omega) two (follows_of_plain low high)
  · refine .lead _ (by omega) ⟨Nat.succ_pos _, after_range _, ?_, List.cons_ne_nil _ _, ?_⟩ rfl
    · simpa using ascii
    · intro second others low high follow counted
      obtain ⟨third, rfl⟩ : ∃ third, others = [third] := by
        simpa [List.length_eq_one_iff] using counted
      exact .three b second third (by omega) three ((second_iff _ _).mpr ⟨low, high⟩)
        (follow third List.mem_cons_self)
  · refine .lead _ (by omega) ⟨Nat.succ_pos _, after_range _, ?_, List.cons_ne_nil _ _, ?_⟩ rfl
    · simpa using ascii
    · intro second others low high follow counted
      obtain ⟨third, fourth, rfl⟩ : ∃ third fourth, others = [third, fourth] := by
        exact List.length_eq_two.mp (by simpa using counted)
      exact .four b second third fourth (by omega) four ((second_iff _ _).mpr ⟨low, high⟩)
        (follow third (by simp)) (follow fourth (by simp))
  · exact .stray (by omega)

/-- A begun character with another byte. -/
def Begun.push (begun : Begun) (b : UInt8) : Begun :=
  ⟨begun.bytes ++ [b], shift begun.value b, begun.missing - 1, 0x80, 0xBF⟩

theorem feed_some (begun : Begun) (b : UInt8) :
    feed (some begun) b =
      if begun.low ≤ b && b ≤ begun.high then
        if begun.missing ≤ 1 then ([.char (Char.ofNat (shift begun.value b))], none)
        else ([], some (begun.push b))
      else (.broken begun.bytes :: (begin b).1, (begin b).2) := rfl

theorem Begun.Leads.push {begun : Begun} {b : UInt8} (leads : begun.Leads) (low : begun.low ≤ b)
    (high : b ≤ begun.high) (more : 1 < begun.missing) : (begun.push b).Leads where
  missing := Nat.sub_pos_of_lt more
  range := plain_range
  filled := by simp [Begun.push]
  large := by
    intro other member
    rcases List.mem_append.mp member with earlier | here
    · exact leads.large other earlier
    · rw [List.mem_singleton] at here
      subst here
      exact Nat.le_trans leads.range.1 (UInt8.le_iff_toNat_le.mp low)
  spelled := by
    intro next others nextLow nextHigh follow counted
    have all : ∀ other ∈ next :: others, Follows other := by
      intro other member
      rcases List.mem_cons.mp member with rfl | later
      · exact follows_of_plain nextLow nextHigh
      · exact follow other later
    have whole := leads.spelled b (next :: others) low high all (by
      have left : (begun.push b).missing = begun.missing - 1 := rfl
      rw [List.length_cons]
      omega)
    have bytes : (begun.push b).bytes ++ next :: others = begun.bytes ++ b :: next :: others := by
      simp [Begun.push]
    have value : (next :: others).foldl shift (begun.push b).value =
        (b :: next :: others).foldl shift begun.value := by
      simp only [List.foldl_cons, Begun.push]
    rw [bytes, value]
    exact whole

/-- What a byte is where a character has begun. -/
inductive Goes (begun : Begun) (b : UInt8) : List Piece × Option Begun → Prop
  | ends (c : Char) (spelled : Spelled c (begun.bytes ++ [b])) : Goes begun b ([.char c], none)
  | on (leads : (begun.push b).Leads) : Goes begun b ([], some (begun.push b))
  | breaks : Goes begun b (.broken begun.bytes :: (begin b).1, (begin b).2)

theorem feed_cases (begun : Begun) (leads : begun.Leads) (b : UInt8) :
    Goes begun b (feed (some begun) b) := by
  rw [feed_some]
  split_ifs with within last
  · obtain ⟨low, high⟩ : begun.low ≤ b ∧ b ≤ begun.high := by simpa using within
    have one : begun.missing = 1 := by
      have := leads.missing
      omega
    exact .ends _ (leads.spelled b [] low high (by simp) (by simp [one]))
  · obtain ⟨low, high⟩ : begun.low ≤ b ∧ b ≤ begun.high := by simpa using within
    exact .on (leads.push low high (by omega))
  · exact .breaks

/-- The bytes a piece was read from. -/
def Piece.bytes : Piece → Bytes
  | .char c => encodeChar c
  | .broken bytes => bytes

/-- A character, or bytes that are no part of one and none of which stands for itself. -/
def Piece.Sound : Piece → Prop
  | .char _ => True
  | .broken bytes => bytes ≠ [] ∧ ∀ b ∈ bytes, 0x80 ≤ b.toNat

/-- The bytes of a character that may have begun. -/
def pending (begun : Option Begun) : Bytes := begun.elim [] Begun.bytes

theorem begin_sound (b : UInt8) :
    (begin b).1.flatMap Piece.bytes ++ pending (begin b).2 = [b] ∧
      (∀ piece ∈ (begin b).1, piece.Sound) ∧ ∀ begun ∈ (begin b).2, begun.Leads := by
  have began := begin_cases b
  generalize begin b = found at began ⊢
  cases began with
  | ascii small =>
    have same := (Spelled.one b small).encodeChar_eq
    refine ⟨?_, by simp [Piece.Sound], by simp⟩
    simp [Piece.bytes, pending, same]
  | stray large => exact ⟨rfl, by simpa [Piece.Sound] using large, by simp⟩
  | lead begun large leads same =>
    refine ⟨?_, by simp, by simpa using leads⟩
    simp [pending, same]

/-- One byte more is one byte more in what has been read. -/
theorem feed_sound (begun : Option Begun) (b : UInt8) (leads : ∀ given ∈ begun, given.Leads) :
    (feed begun b).1.flatMap Piece.bytes ++ pending (feed begun b).2 = pending begun ++ [b] ∧
      (∀ piece ∈ (feed begun b).1, piece.Sound) ∧ ∀ next ∈ (feed begun b).2, next.Leads := by
  cases begun with
  | none => exact begin_sound b
  | some given =>
    have went := feed_cases given (leads given rfl) b
    generalize feed (some given) b = found at went ⊢
    cases went with
    | ends c spelled =>
      have same := spelled.encodeChar_eq
      refine ⟨?_, by simp [Piece.Sound], by simp⟩
      simp [Piece.bytes, pending, same]
    | on more =>
      refine ⟨?_, by simp, by simpa using more⟩
      simp [pending, Begun.push]
    | breaks =>
      obtain ⟨same, sound, next⟩ := begin_sound b
      refine ⟨?_, ?_, next⟩
      · simp [Piece.bytes, pending] at same ⊢
        exact same
      · intro piece member
        rcases List.mem_cons.mp member with rfl | later
        · exact ⟨(leads given rfl).filled, (leads given rfl).large⟩
        · exact sound piece later

/-- Reading loses no byte: the pieces are made of what has begun and what is read, in order. -/
theorem read_sound (begun : Option Begun) (bytes : Bytes) (leads : ∀ given ∈ begun, given.Leads) :
    (read begun bytes).flatMap Piece.bytes = pending begun ++ bytes ∧
      ∀ piece ∈ read begun bytes, piece.Sound := by
  induction bytes generalizing begun with
  | nil =>
    cases begun with
    | none => exact ⟨rfl, by simp [read]⟩
    | some given =>
      have known := leads given rfl
      refine ⟨by simp [read, Piece.bytes, pending], ?_⟩
      simpa [read, Piece.Sound] using And.intro known.filled known.large
  | cons b rest ih =>
    obtain ⟨same, sound, next⟩ := feed_sound begun b leads
    obtain ⟨others, kept⟩ := ih (feed begun b).2 next
    have unfolded : read begun (b :: rest) = (feed begun b).1 ++ read (feed begun b).2 rest := by
      cases begun <;> rfl
    rw [unfolded, List.flatMap_append, others, ← List.append_assoc, same, List.append_assoc]
    refine ⟨rfl, ?_⟩
    intro piece member
    rcases List.mem_append.mp member with here | later
    · exact sound piece here
    · exact kept piece later

theorem bytes_toPieces (bytes : Bytes) : (toPieces bytes).flatMap Piece.bytes = bytes :=
  (read_sound none bytes (by simp)).1

theorem sound_of_mem_toPieces {bytes : Bytes} {piece : Piece} (member : piece ∈ toPieces bytes) :
    piece.Sound :=
  (read_sound none bytes (by simp)).2 piece member

theorem plain_of_follows {b : UInt8} (follows : Follows b) : 0x80 ≤ b ∧ b ≤ 0xBF := by
  obtain ⟨low, high⟩ := follows
  simp only [UInt8.le_iff_toNat_le, UInt8.reduceToNat]
  exact ⟨low, by omega⟩

theorem feed_last (begun : Begun) {b : UInt8} (low : begun.low ≤ b) (high : b ≤ begun.high)
    (last : begun.missing = 1) :
    feed (some begun) b = ([.char (Char.ofNat (shift begun.value b))], none) := by
  rw [feed_some, if_pos (by simp [low, high]), if_pos (Nat.le_of_eq last)]

theorem feed_more (begun : Begun) {b : UInt8} (low : begun.low ≤ b) (high : b ≤ begun.high)
    (more : 1 < begun.missing) : feed (some begun) b = ([], some (begun.push b)) := by
  rw [feed_some, if_pos (by simp [low, high]), if_neg (Nat.not_le.mpr more)]

/-- A character is read where it is written. -/
theorem read_encodeChar (c : Char) (rest : Bytes) :
    read none (encodeChar c ++ rest) = .char c :: read none rest := by
  have spelled := spelled_encodeChar c
  generalize encodeChar c = bytes at spelled ⊢
  cases spelled with
  | one b ascii =>
    simp only [List.cons_append, List.nil_append, read, feed, begin_eq, if_pos ascii]
  | two lead next least most follows =>
    obtain ⟨low, high⟩ := plain_of_follows follows
    let begun : Begun := ⟨[lead], lead.toNat - 0xC0, 1, 0x80, 0xBF⟩
    have first : feed none lead = ([], some begun) := by
      rw [feed, begin_eq, if_neg (by omega), if_neg (by omega), if_pos most]
    have last := feed_last begun low high rfl
    simp only [List.cons_append, List.nil_append, read, first, last]
    rfl
  | three lead second third least most within follows =>
    obtain ⟨low, high⟩ := (second_iff _ _).mp within
    obtain ⟨lastLow, lastHigh⟩ := plain_of_follows follows
    let begun : Begun :=
      ⟨[lead], lead.toNat - 0xE0, 2, lowAfter lead.toNat, highAfter lead.toNat⟩
    have first : feed none lead = ([], some begun) := by
      rw [feed, begin_eq, if_neg (by omega), if_neg (by omega), if_neg (by omega), if_pos most]
    have next := feed_more begun low high (Nat.lt_succ_self 1)
    have last := feed_last (begun.push second) lastLow lastHigh rfl
    simp only [List.cons_append, List.nil_append, read, first, next, last]
    rfl
  | four lead second third fourth least most within follows ending =>
    obtain ⟨low, high⟩ := (second_iff _ _).mp within
    obtain ⟨nextLow, nextHigh⟩ := plain_of_follows follows
    obtain ⟨lastLow, lastHigh⟩ := plain_of_follows ending
    let begun : Begun :=
      ⟨[lead], lead.toNat - 0xF0, 3, lowAfter lead.toNat, highAfter lead.toNat⟩
    have first : feed none lead = ([], some begun) := by
      rw [feed, begin_eq, if_neg (by omega), if_neg (by omega), if_neg (by omega),
        if_neg (by omega), if_pos most]
    have next := feed_more begun low high (Nat.lt_add_of_pos_left (Nat.succ_pos 1))
    have later := feed_more (begun.push second) nextLow nextHigh (Nat.lt_succ_self 1)
    have last := feed_last ((begun.push second).push third) lastLow lastHigh rfl
    simp only [List.cons_append, List.nil_append, read, first, next, later, last]
    rfl

theorem toPieces_encode (t : Text) : toPieces (encode t) = t.map .char := by
  unfold toPieces
  induction t with
  | nil => rfl
  | cons c rest ih => rw [encode_cons, read_encodeChar, ih, List.map_cons]

theorem lossy_encode (t : Text) : lossy (encode t) = t := by
  rw [lossy, toPieces_encode, List.map_map]
  exact List.map_id t

theorem encode_injective {a b : Text} (same : encode a = encode b) : a = b := by
  rw [← lossy_encode a, same, lossy_encode]

/-- Pieces that are all characters are the text they spell. -/
theorem mapM_char?_eq_some_iff (ps : List Piece) (t : Text) :
    ps.mapM Piece.char? = some t ↔ ps = t.map .char := by
  induction ps generalizing t with
  | nil => cases t <;> simp
  | cons piece rest ih =>
    cases piece with
    | broken bytes => cases t <;> simp [Piece.char?]
    | char c =>
      cases t with
      | nil => simp [Piece.char?, Option.bind_eq_some_iff]
      | cons d t => simp [Piece.char?, ih, Option.bind_eq_some_iff, and_comm]

/-- Bytes are read as a text exactly where they are what the text is written as. -/
theorem decode_eq_some_iff (bytes : Bytes) (t : Text) : decode bytes = some t ↔ encode t = bytes := by
  rw [decode, mapM_char?_eq_some_iff]
  constructor
  · intro spelt
    have whole := bytes_toPieces bytes
    rw [spelt, List.flatMap_map] at whole
    exact whole
  · rintro rfl
    exact toPieces_encode t

/-- A byte that stands for itself occurs where its character is written, and nowhere else. -/
theorem mem_encodeChar_iff {b : UInt8} (ascii : b.toNat < 0x80) (c : Char) :
    b ∈ encodeChar c ↔ c = Char.ofNat b.toNat := by
  constructor
  · intro member
    have spelled := spelled_encodeChar c
    generalize encodeChar c = bytes at spelled member
    cases spelled with
    | one other small => rw [List.mem_singleton.mp member]
    | two lead next least most follows =>
      obtain ⟨_, _⟩ := follows
      simp only [List.mem_cons, List.not_mem_nil, or_false] at member
      rcases member with rfl | rfl <;> omega
    | three lead second third least most within follows =>
      obtain ⟨⟨_, _⟩, -, -⟩ := within
      obtain ⟨_, _⟩ := follows
      simp only [List.mem_cons, List.not_mem_nil, or_false] at member
      rcases member with rfl | rfl | rfl <;> omega
    | four lead second third fourth least most within follows last =>
      obtain ⟨⟨_, _⟩, -, -⟩ := within
      obtain ⟨_, _⟩ := follows
      obtain ⟨_, _⟩ := last
      simp only [List.mem_cons, List.not_mem_nil, or_false] at member
      rcases member with rfl | rfl | rfl | rfl <;> omega
  · rintro rfl
    rw [(Spelled.one b ascii).encodeChar_eq]
    exact List.mem_singleton_self b

theorem mem_encode_iff {b : UInt8} (ascii : b.toNat < 0x80) (t : Text) :
    b ∈ encode t ↔ Char.ofNat b.toNat ∈ t := by
  simp only [encode, List.mem_flatMap, mem_encodeChar_iff ascii, exists_eq_right]

/-- A byte that stands for itself is shown as its character. -/
theorem mem_lossy_of_mem {b : UInt8} (ascii : b.toNat < 0x80) {bytes : Bytes} (member : b ∈ bytes) :
    Char.ofNat b.toNat ∈ lossy bytes := by
  rw [← bytes_toPieces bytes] at member
  obtain ⟨piece, among, within⟩ := List.mem_flatMap.mp member
  cases piece with
  | broken broken =>
    have large := (sound_of_mem_toPieces among).2 b within
    omega
  | char c =>
    rw [← (mem_encodeChar_iff ascii c).mp within]
    exact List.mem_map.mpr ⟨.char c, among, rfl⟩

/-- What is shown without a replacement is shown as it is. -/
theorem encode_lossy {bytes : Bytes} (whole : '\uFFFD' ∉ lossy bytes) :
    encode (lossy bytes) = bytes := by
  have spelt : ∀ piece ∈ toPieces bytes, encodeChar (piece.char?.getD '\uFFFD') = piece.bytes := by
    intro piece member
    cases piece with
    | char c => rfl
    | broken broken => exact absurd (List.mem_map.mpr ⟨_, member, rfl⟩) whole
  rw [lossy, encode, List.flatMap_map]
  exact (List.flatMap_congr spelt).trans (bytes_toPieces bytes)

theorem size_cons (c : Char) (t : Text) : size (c :: t) = (encodeChar c).length + size t := by
  rw [size, encode_cons, List.length_append]
  rfl

theorem size_append (front back : Text) : size (front ++ back) = size front + size back := by
  rw [size, encode_append, List.length_append]
  rfl

theorem size_eq_zero_iff (t : Text) : size t = 0 ↔ t = [] := by
  cases t with
  | nil => exact iff_of_true rfl rfl
  | cons c rest =>
    have filled := List.length_pos_iff.mpr (encodeChar_ne_nil c)
    rw [size_cons]
    simp only [reduceCtorEq, iff_false]
    omega

theorem splitAt_zero_eq_some_iff (t before after : Text) :
    splitAt 0 t = some (before, after) ↔ before ++ after = t ∧ size before = 0 := by
  have whole : splitAt 0 t = some ([], t) := by cases t <;> rfl
  rw [whole, size_eq_zero_iff]
  constructor
  · intro cut
    obtain ⟨rfl, rfl⟩ := Prod.mk.inj (Option.some.inj cut)
    exact ⟨rfl, rfl⟩
  · rintro ⟨rfl, rfl⟩
    rfl

/-- A text is cut at the byte offsets that are the size of a front of it, and at no others. -/
theorem splitAt_eq_some_iff (offset : Nat) (t before after : Text) :
    splitAt offset t = some (before, after) ↔ before ++ after = t ∧ size before = offset := by
  induction t generalizing offset before with
  | nil =>
    cases offset with
    | zero => exact splitAt_zero_eq_some_iff [] before after
    | succ offset =>
      simp only [splitAt, reduceCtorEq, List.append_eq_nil_iff, false_iff]
      rintro ⟨⟨rfl, -⟩, impossible⟩
      cases impossible
  | cons c rest ih =>
    cases offset with
    | zero => exact splitAt_zero_eq_some_iff (c :: rest) before after
    | succ offset =>
      have filled := List.length_pos_iff.mpr (encodeChar_ne_nil c)
      rw [splitAt]
      constructor
      · intro cut
        split at cut
        next fits =>
          obtain ⟨⟨front, back⟩, later, same⟩ := Option.map_eq_some_iff.mp cut
          obtain ⟨rfl, rfl⟩ := Prod.mk.inj same
          obtain ⟨joined, sized⟩ := (ih _ _).mp later
          refine ⟨congrArg (c :: ·) joined, ?_⟩
          rw [size_cons]
          omega
        next => cases cut
      · rintro ⟨joined, sized⟩
        cases before with
        | nil => cases sized
        | cons first front =>
          obtain ⟨rfl, others⟩ := List.cons.inj joined
          rw [size_cons] at sized
          have later := (ih (offset + 1 - (encodeChar first).length) front).mpr ⟨others, by omega⟩
          rw [if_pos (by omega), later]
          rfl

end CommandShell.Utf8
