import CommandShell.Script.Arithmetic

/-!
Numbers with a point: the binary number of 64 bits that is nearest to a written one, and the texts
that stand for such numbers. All of it is exact up to the one rounding that is asked for.
-/

set_option autoImplicit false

namespace CommandShell.Script

inductive Floating
  /-- A number of halves, quarters and so on: `mantissa` times two to the `exponent`. -/
  | finite (negative : Bool) (mantissa : Nat) (exponent : Int)
  | infinite (negative : Bool)
  | notNumber (negative : Bool)

namespace Floating

/-- A power of ten. -/
def tenTo : Nat → Nat
  | 0 => 1
  | n + 1 => 10 * tenTo n

/-- The whole number nearest to a quotient, the even one of two, and whether it is the quotient. -/
def divideNearest (numerator denominator : Nat) : Nat × Bool :=
  let quotient := numerator / denominator
  let rest := numerator % denominator
  let up := 2 * rest > denominator || (2 * rest = denominator && quotient % 2 = 1)
  (if up then quotient + 1 else quotient, rest = 0)

/-! ## The nearest number -/

/-- The least exponent. -/
def leastExponent : Int := -1074

def greatestExponent : Int := 971

/-- One past the greatest mantissa. -/
def mantissaLimit : Nat := 1 <<< 53

/-- A positive quotient in units of two to an exponent. -/
def inUnits (numerator denominator : Nat) (exponent : Int) : Nat × Nat :=
  if exponent < 0 then (numerator <<< (-exponent).toNat, denominator)
  else (numerator, denominator <<< exponent.toNat)

/-- The exponent of the number nearest to a positive quotient. -/
def exponentFor (numerator denominator : Nat) : Int :=
  let guess := (numerator.log2 : Int) - denominator.log2 - 52
  let (n, d) := inUnits numerator denominator guess
  max leastExponent (if n < d * (mantissaLimit / 2) then guess - 1 else guess)

/-- The number nearest to a quotient, and whether it is out of range: too great, or so small that it
is not precise. -/
def nearest (negative : Bool) (numerator denominator : Nat) : Floating × Bool :=
  if numerator = 0 then (.finite negative 0 leastExponent, false)
  else
    let exponent := exponentFor numerator denominator
    let (n, d) := inUnits numerator denominator exponent
    let (rounded, exact) := divideNearest n d
    let (mantissa, exponent) :=
      if rounded = mantissaLimit then (mantissaLimit / 2, exponent + 1) else (rounded, exponent)
    if exponent > greatestExponent then (.infinite negative, true)
    else (.finite negative mantissa exponent, !exact && mantissa < mantissaLimit / 2)

/-! ## Reading -/

/-- Digits with a point among them: what they come to without the point, how many stand behind it,
and what follows. -/
def spanPointed (base : Nat) (t : Text) : Option (Nat × Nat × Text) :=
  let isDigit := Arithmetic.isDigitOf base
  let whole := t.takeWhile isDigit
  let rest := t.drop whole.length
  let part := if rest.head? = some '.' then rest.tail.takeWhile isDigit else []
  if whole.isEmpty && part.isEmpty then none
  else
    let after := if rest.head? = some '.' then rest.drop (part.length + 1) else rest
    let value := (whole ++ part).foldl
      (fun n c => n * base + (Arithmetic.digitValue? c).getD 0) 0
    some (value, part.length, after)

/-- An exponent after its letter, if there is one. -/
def spanExponent (letter : Char) (t : Text) : Int × Text :=
  match t with
  | c :: rest =>
    if c.toLower = letter then
      let negative := rest.head? = some '-'
      let digits := if negative || rest.head? = some '+' then rest.tail else rest
      match Arithmetic.spanDigits 10 digits with
      | some (n, after) => (if negative then -n else n, after)
      | none => (0, t)
    else (0, t)
  | [] => (0, t)

/-- The number nearest to one with a decimal exponent. Far out of range, nothing is computed. -/
def ofDecimal (negative : Bool) (value : Nat) (exponent : Int) : Floating × Bool :=
  let size := exponent + (Nat.toDigits 10 value).length
  if value = 0 then (.finite negative 0 leastExponent, false)
  else if size > 400 then (.infinite negative, true)
  else if size < -400 then (.finite negative 0 leastExponent, true)
  else if exponent < 0 then nearest negative value (tenTo (-exponent).toNat)
  else nearest negative (value * tenTo exponent.toNat) 1

/-- The number nearest to one with a binary exponent. -/
def ofBinary (negative : Bool) (value : Nat) (exponent : Int) : Floating × Bool :=
  let size := exponent + value.log2
  if value = 0 then (.finite negative 0 leastExponent, false)
  else if size > 1200 then (.infinite negative, true)
  else if size < -1200 then (.finite negative 0 leastExponent, true)
  else if exponent < 0 then nearest negative value (1 <<< (-exponent).toNat)
  else nearest negative (value <<< exponent.toNat) 1

/-- The text after a word, in letters of any case, if it begins with that. -/
def afterWord (word : String) (t : Text) : Option Text :=
  if word.toList.isPrefixOf (t.map Char.toLower) then some (t.drop word.length) else none

/-- What may follow the word for no number: letters and digits in parentheses. -/
def afterPayload (t : Text) : Text :=
  match t with
  | '(' :: rest =>
    let inner := rest.takeWhile isNameChar
    match rest.drop inner.length with
    | ')' :: after => after
    | _ => t
  | _ => t

/-- A number without its sign, whether it is out of range, and what follows it. -/
def spanUnsigned (negative : Bool) (t : Text) : Option ((Floating × Bool) × Text) :=
  let decimal : Option ((Floating × Bool) × Text) := do
    let (value, behind, rest) ← spanPointed 10 t
    let (exponent, rest) := spanExponent 'e' rest
    return (ofDecimal negative value (exponent - behind), rest)
  match afterWord "infinity" t, afterWord "inf" t, afterWord "nan" t, afterWord "0x" t with
  | some rest, _, _, _ | none, some rest, _, _ => some ((.infinite negative, false), rest)
  | none, none, some rest, _ => some ((.notNumber negative, false), afterPayload rest)
  | none, none, none, some digits =>
    match spanPointed 16 digits with
    | some (value, behind, rest) =>
      let (exponent, rest) := spanExponent 'p' rest
      some (ofBinary negative value (exponent - 4 * behind), rest)
    | none => decimal
  | none, none, none, none => decimal

/-- A number with blanks before it and maybe a sign, whether it is out of range, and what follows
it. -/
def span (t : Text) : Option ((Floating × Bool) × Text) :=
  match t.dropWhile Arithmetic.isSpace with
  | '-' :: rest => spanUnsigned true rest
  | '+' :: rest => spanUnsigned false rest
  | rest => spanUnsigned false rest

/-! ## Printing -/

/-- The whole number nearest to a number times a power of ten. -/
def scaled (mantissa : Nat) (exponent tens : Int) : Nat :=
  let n := mantissa <<< exponent.toNat * tenTo tens.toNat
  let d := 1 <<< (-exponent).toNat * tenTo (-tens).toNat
  (divideNearest n d).1

/-- How many times ten a positive quotient has to be taken to be no fraction. `fuel` bounds that. -/
def tensMissing (numerator denominator : Nat) : Nat → Nat
  | 0 => 0
  | fuel + 1 =>
    if numerator ≥ denominator then 0
    else tensMissing (numerator * 10) denominator fuel + 1

/-- The greatest power of ten that is not above a positive number. -/
def decimalExponent (mantissa : Nat) (exponent : Int) : Int :=
  let n := mantissa <<< exponent.toNat
  let d := 1 <<< (-exponent).toNat
  if n ≥ d then ((Nat.toDigits 10 (n / d)).length : Int) - 1 else -(tensMissing n d 400 : Int)

/-- Digits with a point before the last ones. Without those, the point is kept if that is wanted. -/
def pointed (keepsPoint : Bool) (places : Nat) (number : Nat) : Text :=
  let digits := Nat.toDigits 10 number
  let digits := List.replicate (places + 1 - digits.length) '0' ++ digits
  let whole := digits.take (digits.length - places)
  whole ++ (if places > 0 || keepsPoint then ['.'] else []) ++ digits.drop whole.length

/-- A number with so many places behind the point. -/
def fixed (keepsPoint : Bool) (places mantissa : Nat) (exponent : Int) : Text :=
  pointed keepsPoint places (scaled mantissa exponent places)

/-- The digits of a number in scientific form, as one whole number, and its exponent. -/
def scientificParts (places mantissa : Nat) (exponent : Int) : Nat × Int :=
  if mantissa = 0 then (0, 0)
  else
    let tens := decimalExponent mantissa exponent
    let number := scaled mantissa exponent (places - tens)
    if number ≥ tenTo (places + 1) then (tenTo places, tens + 1) else (number, tens)

/-- An exponent after its letter. -/
def shownExponent (letter : Char) (digits : Nat) (exponent : Int) : Text :=
  let shown := Nat.toDigits 10 exponent.natAbs
  letter :: (if exponent < 0 then '-' else '+') ::
    List.replicate (digits - shown.length) '0' ++ shown

/-- A number in scientific form. -/
def scientific (keepsPoint : Bool) (places mantissa : Nat) (exponent : Int) : Text :=
  let (number, tens) := scientificParts places mantissa exponent
  pointed keepsPoint places number ++ shownExponent 'e' 2 tens

/-- Digits without the zeros at the end of those behind the point, and without a point at the end. -/
def trimZeros (t : Text) : Text :=
  if t.contains '.' then
    let trimmed := t.reverse.dropWhile (· = '0')
    (if trimmed.head? = some '.' then trimmed.tail else trimmed).reverse
  else t

/-- A number with so many digits that count, in the shorter form. -/
def shortest (keepsZeros : Bool) (digits mantissa : Nat) (exponent : Int) : Text :=
  let digits := max digits 1
  let (number, tens) := scientificParts (digits - 1) mantissa exponent
  let trim (t : Text) : Text := if keepsZeros then t else trimZeros t
  if tens < -4 || tens ≥ digits then
    trim (pointed keepsZeros (digits - 1) number) ++ shownExponent 'e' 2 tens
  else trim (fixed keepsZeros (digits - 1 - tens).toNat mantissa exponent)

/-- A number in hexadecimal digits, without the mark in front of it. -/
def hexadecimal (keepsPoint : Bool) (places : Option Nat) (mantissa : Nat) (exponent : Int) :
    Text :=
  let isNormal := mantissa ≥ mantissaLimit / 2
  let whole := mantissa / (mantissaLimit / 2)
  let part := mantissa % (mantissaLimit / 2)
  let power := if mantissa = 0 then 0 else if isNormal then exponent + 52 else -1022
  let digitsOf (count n : Nat) : Text :=
    let digits := if n = 0 then [] else Nat.toDigits 16 n
    List.replicate (count - digits.length) '0' ++ digits
  let (whole, digits) :=
    match places with
    | none => (whole, ((digitsOf 13 part).reverse.dropWhile (· = '0')).reverse)
    | some places =>
      if places ≥ 13 then (whole, digitsOf 13 part ++ List.replicate (places - 13) '0')
      else
        let unit := 1 <<< (52 - 4 * places)
        let number := (divideNearest (whole <<< 52 + part) unit).1
        let scale := 1 <<< (4 * places)
        (number / scale, digitsOf places (number % scale))
  Nat.toDigits 16 whole ++ (if !digits.isEmpty || keepsPoint then ['.'] else []) ++ digits
    ++ shownExponent 'p' 1 power

/-- The letters by which the forms are asked for. -/
def letters : Text := "aAeEfFgG".toList

/-- What stands before the digits of a number besides its sign, and the digits. A letter asks for a
form; `keepsPoint` for a point and zeros that could be left out. -/
def shown (letter : Char) (keepsPoint : Bool) (precision : Option Nat) : Floating → Text × Text
  | .infinite _ => ([], "inf".toList)
  | .notNumber _ => ([], "nan".toList)
  | .finite _ mantissa exponent =>
    let places := precision.getD 6
    match letter with
    | 'a' => (['0', 'x'], hexadecimal keepsPoint precision mantissa exponent)
    | 'e' => ([], scientific keepsPoint places mantissa exponent)
    | 'f' => ([], fixed keepsPoint places mantissa exponent)
    | _ => ([], shortest keepsPoint places mantissa exponent)

def isNegative : Floating → Bool
  | .finite negative _ _ | .infinite negative | .notNumber negative => negative

def isFinite : Floating → Bool
  | .finite _ _ _ => true
  | _ => false

end Floating

end CommandShell.Script
