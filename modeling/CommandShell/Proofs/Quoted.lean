import CommandShell.Proofs.Utf8
import CommandShell.Text.Quoted

/-!
Reading back what stands between double quotes, a character at a time. What was quoted is read again,
text as its encoding and bytes as they were.
-/

set_option autoImplicit false

namespace CommandShell.Quoted

/-- What the next character between quotes belongs to. -/
inductive Reader
  | plain
  /-- Behind a backslash. -/
  | escaped
  /-- At the first of two digits of a byte. -/
  | byte
  /-- At the second, behind a first digit of this value. -/
  | byteAfter (high : Nat)
  /-- Before the brace that opens a number. -/
  | opening
  /-- Within the number of a character, behind digits of this value. -/
  | number (sofar : Nat)
  /-- Behind the closing quote. -/
  | closed

/-- The value of a hexadecimal digit, small or capital. -/
def hexValue (c : Char) : Option Nat := "0123456789abcdef".toList.idxOf? c.toLower

/-- The escapes of one letter, and the bytes they stand for. -/
def letters : List (Char × UInt8) :=
  [('0', 0x00), ('t', 0x09), ('n', 0x0A), ('r', 0x0D), ('\x22', 0x22), ('\\', 0x5C)]

/-- The bytes that a character completes, and what the next one belongs to. -/
def Reader.step : Reader → Char → Option (Bytes × Reader)
  | .plain, c =>
    if c = '\\' then some ([], .escaped)
    else if c = '\x22' then some ([], .closed)
    else some (Utf8.encodeChar c, .plain)
  | .escaped, c =>
    if c = 'x' then some ([], .byte)
    else if c = 'u' then some ([], .opening)
    else (letters.lookup c).map fun b => ([b], .plain)
  | .byte, c => (hexValue c).map fun high => ([], .byteAfter high)
  | .byteAfter high, c => (hexValue c).map fun low => ([UInt8.ofNat (16 * high + low)], .plain)
  | .opening, c => if c = '\x7b' then some ([], .number 0) else none
  | .number sofar, c =>
    if c = '\x7d' then some (Utf8.encodeChar (Char.ofNat sofar), .plain)
    else (hexValue c).map fun digit => ([], .number (16 * sofar + digit))
  | .closed, _ => none

/-- Reads on. All must be closed at the end. -/
def Reader.read : Reader → Text → Option Bytes
  | .closed, [] => some []
  | _, [] => none
  | reader, c :: rest =>
    (reader.step c).bind fun (bytes, next) => (next.read rest).map (bytes ++ ·)

/-- The bytes that a text between quotes stands for. -/
def read : Text → Option Bytes
  | '\x22' :: inside => Reader.plain.read inside
  | _ => none

variable {reader next : Reader}

theorem Reader.read_cons_of_step {c : Char} {bytes : Bytes}
    (step : reader.step c = some (bytes, next)) (rest : Text) :
    reader.read (c :: rest) = (next.read rest).map (bytes ++ ·) := by
  rw [Reader.read, step]
  rfl

/-- A character that completes nothing. -/
theorem Reader.read_cons_of_quiet {c : Char} (step : reader.step c = some ([], next))
    (rest : Text) : reader.read (c :: rest) = next.read rest := by
  rw [read_cons_of_step step]
  simp

theorem hexValue_digitChar {n : Nat} (small : n < 16) :
    hexValue (Nat.digitChar n) = some n := by
  revert n
  decide +kernel

theorem hexValue_capital {n : Nat} (small : n < 16) :
    hexValue (Nat.digitChar n).toUpper = some n := by
  revert n
  decide +kernel

theorem step_number_digitChar (sofar : Nat) {n : Nat} (small : n < 16) :
    (Reader.number sofar).step (Nat.digitChar n) = some ([], .number (16 * sofar + n)) := by
  have other : Nat.digitChar n ≠ '\x7d' := by
    revert n
    decide +kernel
  rw [Reader.step, if_neg other, hexValue_digitChar small]
  rfl

/-- Digits add up from the left: behind nothing, those of a number add up to it. -/
theorem read_number_hex (n : Nat) (rest : Text) :
    (Reader.number 0).read (Decimal.hex n ++ rest) = (Reader.number n).read rest := by
  induction n using Nat.strongRecOn generalizing rest with
  | ind n ih =>
    rw [Decimal.hex, Nat.toDigits_eq_if (by decide)]
    split
    next small =>
      rw [List.singleton_append, Reader.read_cons_of_quiet (step_number_digitChar 0 small),
        Nat.mul_zero, Nat.zero_add]
    next large =>
      have last : n % 16 < 16 := Nat.mod_lt n (by decide)
      rw [List.append_assoc]
      refine (ih (n / 16) (by omega) _).trans ?_
      rw [List.singleton_append, Reader.read_cons_of_quiet (step_number_digitChar _ last),
        Nat.div_add_mod]

theorem read_codePoint (c : Char) (rest : Text) :
    Reader.plain.read (codePoint c ++ rest) =
      (Reader.plain.read rest).map (Utf8.encodeChar c ++ ·) := by
  have closes : (Reader.number c.toNat).step '\x7d' =
      some (Utf8.encodeChar (Char.ofNat c.toNat), .plain) := rfl
  have opens (digits : Text) : Reader.plain.read ('\\' :: 'u' :: '\x7b' :: digits) =
      (Reader.number 0).read digits :=
    (Reader.read_cons_of_quiet rfl _).trans
      ((Reader.read_cons_of_quiet rfl _).trans (Reader.read_cons_of_quiet rfl _))
  change Reader.plain.read ('\\' :: 'u' :: '\x7b' :: (Decimal.hex c.toNat ++ ['\x7d'] ++ rest)) = _
  rw [opens, List.append_assoc, read_number_hex, List.singleton_append,
    Reader.read_cons_of_step closes, Char.ofNat_toNat]

/-- A letter behind a backslash. -/
theorem read_letter {letter : Char} {b : UInt8}
    (step : Reader.escaped.step letter = some ([b], .plain)) (rest : Text) :
    Reader.plain.read ('\\' :: letter :: rest) = (Reader.plain.read rest).map ([b] ++ ·) :=
  (Reader.read_cons_of_quiet rfl _).trans (Reader.read_cons_of_step step _)

theorem read_escape (c : Char) (rest : Text) :
    Reader.plain.read (escape c ++ rest) =
      (Reader.plain.read rest).map (Utf8.encodeChar c ++ ·) := by
  rw [escape]
  -- One case for each letter, then the characters that stand for themselves, then the numbers.
  split
  next nul =>
    subst nul
    exact read_letter rfl rest
  split
  next tab =>
    subst tab
    exact read_letter rfl rest
  split
  next ret =>
    subst ret
    exact read_letter rfl rest
  split
  next feed =>
    subst feed
    exact read_letter rfl rest
  split
  next backslash =>
    subst backslash
    exact read_letter rfl rest
  split
  next quote =>
    subst quote
    exact read_letter rfl rest
  next backslash quote =>
    split
    · apply Reader.read_cons_of_step
      rw [Reader.step, if_neg backslash, if_neg quote]
    · exact read_codePoint c rest

theorem read_rawByte (b : UInt8) (rest : Text) :
    Reader.plain.read (rawByte b ++ rest) = (Reader.plain.read rest).map (b :: ·) := by
  have range := b.toNat_lt
  have value : UInt8.ofNat (16 * (b.toNat / 16) + b.toNat % 16) = b := by
    rw [Nat.div_add_mod, UInt8.ofNat_toNat]
  have first : Reader.byte.step (Nat.digitChar (b.toNat / 16)).toUpper =
      some ([], .byteAfter (b.toNat / 16)) := by
    rw [Reader.step, hexValue_capital (by omega)]
    rfl
  have second : (Reader.byteAfter (b.toNat / 16)).step (Nat.digitChar (b.toNat % 16)).toUpper =
      some ([b], .plain) := by
    rw [Reader.step, hexValue_capital (by omega), Option.map_some, value]
  calc Reader.plain.read (rawByte b ++ rest)
      = Reader.byte.read ((Nat.digitChar (b.toNat / 16)).toUpper ::
          (Nat.digitChar (b.toNat % 16)).toUpper :: rest) :=
        (Reader.read_cons_of_quiet rfl _).trans (Reader.read_cons_of_quiet rfl _)
    _ = _ := (Reader.read_cons_of_quiet first _).trans (Reader.read_cons_of_step second _)

/-- Parts that are each read back are read back together. -/
theorem read_flatMap {α : Type} (shown : α → Text) (bytes : α → Bytes) (parts : List α)
    (each : ∀ part rest,
      Reader.plain.read (shown part ++ rest) = (Reader.plain.read rest).map (bytes part ++ ·))
    (rest : Text) :
    Reader.plain.read (parts.flatMap shown ++ rest) =
      (Reader.plain.read rest).map (parts.flatMap bytes ++ ·) := by
  induction parts with
  | nil => simp
  | cons part parts ih =>
    rw [List.flatMap_cons, List.append_assoc, each, ih, Option.map_map]
    simp [Function.comp_def]

/-- What has been read back up to the closing quote is all. -/
theorem read_enclose {inside : Text} {bytes : Bytes}
    (back : Reader.plain.read (inside ++ ['\x22']) =
      (Reader.plain.read ['\x22']).map (bytes ++ ·)) :
    read (enclose inside) = some bytes := by
  refine back.trans ?_
  rw [Reader.read_cons_of_quiet rfl, Reader.read, Option.map_some, List.append_nil]

/-- Quoted text stands for its encoding. -/
theorem read_text (t : Text) : read (text t) = some (Utf8.encode t) :=
  read_enclose (read_flatMap escape Utf8.encodeChar t read_escape _)

/-- Quoted bytes stand for themselves, whether they are UTF-8 or not. -/
theorem read_bytes (b : Bytes) : read (bytes b) = some b := by
  refine (read_enclose (read_flatMap _ Utf8.Piece.bytes (Utf8.toPieces b) ?_ _)).trans
    (congrArg some (Utf8.bytes_toPieces b))
  intro piece rest
  cases piece with
  | char c => exact read_escape c rest
  | broken raw =>
    have each := read_flatMap rawByte ([·]) raw read_rawByte rest
    rwa [List.flatMap_singleton'] at each

end CommandShell.Quoted
