import CommandShell.Text.Basic

/-!
UTF-8: writing characters as bytes, and reading bytes one at a time into characters and broken
pieces.
-/

set_option autoImplicit false

namespace CommandShell.Utf8

def encodeChar (c : Char) : Bytes := String.utf8EncodeChar c

def encode (t : Text) : Bytes := t.flatMap encodeChar

@[simp] theorem encode_nil : encode [] = [] := rfl

@[simp] theorem encode_cons (c : Char) (t : Text) : encode (c :: t) = encodeChar c ++ encode t :=
  rfl

theorem encode_append (front back : Text) : encode (front ++ back) = encode front ++ encode back := by
  simp [encode]

theorem encodeChar_ne_nil (c : Char) : encodeChar c ≠ [] := by
  unfold encodeChar String.utf8EncodeChar
  dsimp only
  split
  · simp
  · split
    · simp
    · split <;> simp

/-- What a stretch of bytes turns out to be: a character, or the start of one that breaks off. -/
inductive Piece
  | char (c : Char)
  | broken (bytes : Bytes)

/-- A character that has begun: its bytes so far, its value so far, how many bytes it still needs,
and the range the next of them must lie in. -/
structure Begun where
  bytes : Bytes
  value : Nat
  missing : Nat
  low : UInt8
  high : UInt8

/-- A byte where a character may begin. The ranges leave out overlong forms, surrogates and values
past U+10FFFF. -/
def begin (b : UInt8) : List Piece × Option Begun :=
  let bits := b.toNat
  if b < 0x80 then ([.char (Char.ofNat bits)], none)
  else if 0xC2 ≤ b && b ≤ 0xDF then ([], some ⟨[b], bits - 0xC0, 1, 0x80, 0xBF⟩)
  else if b = 0xE0 then ([], some ⟨[b], bits - 0xE0, 2, 0xA0, 0xBF⟩)
  else if b = 0xED then ([], some ⟨[b], bits - 0xE0, 2, 0x80, 0x9F⟩)
  else if 0xE1 ≤ b && b ≤ 0xEF then ([], some ⟨[b], bits - 0xE0, 2, 0x80, 0xBF⟩)
  else if b = 0xF0 then ([], some ⟨[b], bits - 0xF0, 3, 0x90, 0xBF⟩)
  else if 0xF1 ≤ b && b ≤ 0xF3 then ([], some ⟨[b], bits - 0xF0, 3, 0x80, 0xBF⟩)
  else if b = 0xF4 then ([], some ⟨[b], bits - 0xF0, 3, 0x80, 0x8F⟩)
  else ([.broken [b]], none)

/-- A byte after the ones read so far: a begun character goes on, ends, or breaks off before it. -/
def feed : Option Begun → UInt8 → List Piece × Option Begun
  | none, b => begin b
  | some begun, b =>
    if begun.low ≤ b && b ≤ begun.high then
      let value := begun.value * 64 + (b.toNat - 0x80)
      if begun.missing ≤ 1 then ([.char (Char.ofNat value)], none)
      else ([], some ⟨begun.bytes ++ [b], value, begun.missing - 1, 0x80, 0xBF⟩)
    else (.broken begun.bytes :: (begin b).1, (begin b).2)

/-- The pieces of a byte list, in order, given what has begun before it. -/
def read : Option Begun → Bytes → List Piece
  | none, [] => []
  | some begun, [] => [.broken begun.bytes]
  | begun, b :: rest => (feed begun b).1 ++ read (feed begun b).2 rest

def toPieces (bytes : Bytes) : List Piece := read none bytes

def Piece.char? : Piece → Option Char
  | .char c => some c
  | .broken _ => none

/-- The text whose encoding the bytes are, if they are one. -/
def decode (bytes : Bytes) : Option Text := (toPieces bytes).mapM Piece.char?

/-- The bytes as text, with U+FFFD in the place of every broken piece. -/
def lossy (bytes : Bytes) : Text := (toPieces bytes).map fun piece => piece.char?.getD '\uFFFD'

/-- How many bytes a text takes. -/
def size (t : Text) : Nat := (encode t).length

/-- The parts of a text before and after a byte offset, unless that lies outside the text or
inside a character. -/
def splitAt : Nat → Text → Option (Text × Text)
  | 0, t => some ([], t)
  | _ + 1, [] => none
  | n + 1, c :: rest =>
    if (encodeChar c).length ≤ n + 1 then
      (splitAt (n + 1 - (encodeChar c).length) rest).map fun (before, after) => (c :: before, after)
    else none

end CommandShell.Utf8
