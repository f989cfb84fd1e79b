import CommandShell.Script.Floating

/-!
What the printing commands of a script print.
-/

set_option autoImplicit false

namespace CommandShell.Script

/-- The character a letter after a backslash stands for. -/
def escaped? (c : Char) : Option Char :=
  match c with
  | 'a' => some '\x07'
  | 'b' => some '\x08'
  | 'e' => some '\x1b'
  | 'f' => some '\x0c'
  | 'n' => some '\n'
  | 'r' => some '\r'
  | 't' => some '\t'
  | 'v' => some '\x0b'
  | '\\' => some '\\'
  | _ => none

def isOctal (c : Char) : Bool := '0' ≤ c && c ≤ '7'

/-- Cuts off up to three octal digits, and tells the byte they stand for. -/
def spanOctal (t : Text) : Char × Text :=
  let digits := (t.take 3).takeWhile isOctal
  (Char.ofNat (digits.foldl (fun n c => n * 8 + (c.toNat - '0'.toNat)) 0 % 256),
    t.drop digits.length)

/-- What the characters after a backslash stand for, and what follows them. -/
def readEscape (t : Text) : Text × Text :=
  match t with
  | [] => (['\\'], [])
  | c :: rest =>
    if isOctal c then
      let (byte, rest) := spanOctal t
      ([byte], rest)
    else
      match escaped? c with
      | some d => ([d], rest)
      | none => (['\\', c], rest)

/-- Replaces what stands behind backslashes; `\c` ends the text, and a zero may come before three
octal digits. The flag tells whether the text goes on. `fuel` bounds its length. -/
def unescape (fuel : Nat) (t : Text) : Text × Bool :=
  match fuel, t with
  | 0, _ | _, [] => ([], true)
  | _ + 1, '\\' :: 'c' :: _ => ([], false)
  | fuel + 1, '\\' :: '0' :: rest =>
    let (byte, rest) := spanOctal rest
    let (later, goesOn) := unescape fuel rest
    (byte :: later, goesOn)
  | fuel + 1, '\\' :: rest =>
    let (shown, rest) := readEscape rest
    let (later, goesOn) := unescape fuel rest
    (shown ++ later, goesOn)
  | fuel + 1, c :: rest =>
    let (later, goesOn) := unescape fuel rest
    (c :: later, goesOn)

/-- The output of `echo`. -/
def echoed (arguments : List Text) : Text :=
  let silent := arguments.head? = some ['-', 'n']
  let joined := [' '].intercalate (if silent then arguments.tail else arguments)
  let (shown, goesOn) := unescape (joined.length + 1) joined
  shown ++ (if silent || !goesOn then [] else ['\n'])

/-- How an argument is to be printed. -/
structure Layout where
  flags : Text
  width : Nat
  precision : Option Nat

namespace Layout

def has (layout : Layout) (flag : Char) : Bool := layout.flags.contains flag

/-- Fills a text up with blanks. -/
def pad (layout : Layout) (t : Text) : Text :=
  let blanks := List.replicate (layout.width - t.length) ' '
  if layout.has '-' then t ++ blanks else blanks ++ t

/-- A number as its sign or mark and its digits. -/
def number (layout : Layout) (mark digits : Text) : Text :=
  let least := layout.precision.getD 1
  let zeros :=
    if layout.precision.isNone && layout.has '0' && !layout.has '-' then
      max least (layout.width - mark.length)
    else least
  layout.pad (mark ++ List.replicate (zeros - digits.length) '0' ++ digits)

/-- What is put before a number. -/
def sign (layout : Layout) (negative : Bool) : Text :=
  if negative then ['-']
  else if layout.has '+' then ['+']
  else if layout.has ' ' then [' ']
  else []

/-- A number with a point, by its sign, its mark and its digits. -/
def floating (layout : Layout) (sign mark digits : Text) (isFinite : Bool) : Text :=
  let length := sign.length + mark.length + digits.length
  if isFinite && layout.has '0' && !layout.has '-' then
    sign ++ mark ++ List.replicate (layout.width - length) '0' ++ digits
  else layout.pad (sign ++ mark ++ digits)

end Layout

/-- The digits of a number; zero has none of its own. -/
def digitsOf (base n : Nat) : Text := if n = 0 then [] else Nat.toDigits base n

/-- What printing has come to. -/
structure Printing where
  output : Text
  arguments : List Text
  complaints : List Text
  status : Nat
  /-- Nothing more is printed. -/
  isOver : Bool

namespace Printing

def add (printing : Printing) (t : Text) : Printing :=
  { printing with output := printing.output ++ t }

def complain (printing : Printing) (t : Text) (what : String) : Printing :=
  { printing with complaints := printing.complaints ++ [t ++ what.toList], status := 1 }

/-- Gives up. -/
def abort (printing : Printing) (complaint : Text) : Printing :=
  { printing with
    complaints := printing.complaints ++ [complaint]
    status := 2
    isOver := true }

/-- Takes the next argument. -/
def next (printing : Printing) : Text × Printing :=
  (printing.arguments.head?.getD [], { printing with arguments := printing.arguments.tail })

/-- Takes the next argument as a number. After a quotation mark that is the one of a character. -/
def nextNumber (printing : Printing) : Int × Printing :=
  let (argument, printing) := printing.next
  match argument with
  | '\x27' :: rest | '\x22' :: rest => ((rest.head?.map (·.toNat)).getD 0, printing)
  | _ =>
    match Arithmetic.spanSigned argument with
    | some (i, []) =>
      if i = 0x7FFFFFFFFFFFFFFF || i = -0x8000000000000000 then
        (i, printing.complain argument ": Numerical result out of range")
      else (i, printing)
    | some (i, _) => (i, printing.complain argument ": not completely converted")
    | none =>
      (0, if argument.isEmpty then printing
        else printing.complain argument ": expected numeric value")

/-- Takes the next argument as a number with a point. -/
def nextFloating (printing : Printing) : Floating × Printing :=
  let (argument, printing) := printing.next
  let zero : Floating := .finite false 0 0
  match argument with
  | '\x27' :: rest | '\x22' :: rest =>
    ((Floating.nearest false ((rest.head?.map (·.toNat)).getD 0) 1).1, printing)
  | _ =>
    match Floating.span argument with
    | some ((number, isOutOfRange), []) =>
      (number, if isOutOfRange then
        printing.complain argument ": Numerical result out of range" else printing)
    | some ((number, _), _) => (number, printing.complain argument ": not completely converted")
    | none =>
      (zero, if argument.isEmpty then printing
        else printing.complain argument ": expected numeric value")

/-- Prints an argument as a conversion says. -/
def convert (printing : Printing) (layout : Layout) (conversion : Char) : Printing :=
  let unsigned (i : Int) : Nat := (i.emod 0x10000000000000000).toNat
  let inBase (base : Nat) (mark : Text) (upper : Bool) : Printing :=
    let (i, printing) := printing.nextNumber
    let digits := digitsOf base (unsigned i)
    let shown := layout.number (if layout.has '#' && i ≠ 0 then mark else []) digits
    printing.add (if upper then shown.map Char.toUpper else shown)
  match conversion with
  | 's' =>
    let (argument, printing) := printing.next
    printing.add (layout.pad (argument.take (layout.precision.getD argument.length)))
  | 'b' =>
    let (argument, printing) := printing.next
    let (shown, goesOn) := unescape (argument.length + 1) argument
    { printing.add (layout.pad shown) with isOver := !goesOn }
  | 'c' =>
    let (argument, printing) := printing.next
    printing.add (layout.pad [argument.head?.getD '\x00'])
  | 'd' | 'i' =>
    let (i, printing) := printing.nextNumber
    printing.add (layout.number (layout.sign (i < 0)) (digitsOf 10 i.natAbs))
  | 'u' => inBase 10 [] false
  | 'o' => inBase 8 ['0'] false
  | 'x' => inBase 16 ['0', 'x'] false
  | 'X' => inBase 16 ['0', 'x'] true
  | _ =>
    let (number, printing) := printing.nextFloating
    let (mark, digits) := number.shown conversion.toLower (layout.has '#') layout.precision
    let shown := layout.floating (layout.sign number.isNegative) mark digits number.isFinite
    printing.add (if conversion.isUpper then shown.map Char.toUpper else shown)

/-- A width or a precision: written, or the next argument. -/
def readSize (printing : Printing) (t : Text) : Option Nat × Printing × Text :=
  match t with
  | '*' :: rest =>
    let (i, printing) := printing.nextNumber
    (some i.toNat, printing, rest)
  | _ =>
    match Arithmetic.spanDigits 10 t with
    | some (n, rest) => (some n, printing, rest)
    | none => (none, printing, t)

/-- Prints a format once. `fuel` bounds its length. -/
def fill (fuel : Nat) (printing : Printing) (format : Text) : Printing :=
  match fuel, format with
  | 0, _ | _, [] => printing
  | fuel + 1, '\\' :: rest =>
    let (shown, rest) := readEscape rest
    fill fuel (printing.add shown) rest
  | fuel + 1, '%' :: '%' :: rest => fill fuel (printing.add ['%']) rest
  | fuel + 1, '%' :: rest =>
    let flags := rest.takeWhile (· ∈ ['#', '-', '+', ' ', '0'])
    let (width, printing, rest) := printing.readSize (rest.drop flags.length)
    let (precision, printing, rest) :=
      match rest with
      | '.' :: rest =>
        let (precision, printing, rest) := printing.readSize rest
        (some (precision.getD 0), printing, rest)
      | _ => (none, printing, rest)
    match rest with
    | [] => printing.abort "missing format character".toList
    | conversion :: rest =>
      if "sbcdiuoxX".toList.contains conversion || Floating.letters.contains conversion then
        let printed := printing.convert ⟨flags, width.getD 0, precision⟩ conversion
        if printed.isOver then printed else fill fuel printed rest
      else printing.abort (['%', conversion] ++ ": invalid directive".toList)
  | fuel + 1, c :: rest => fill fuel (printing.add [c]) rest

/-- Prints a format again and again while it takes arguments. -/
def fillAll (fuel : Nat) (printing : Printing) (format : Text) : Printing :=
  match fuel with
  | 0 => printing
  | fuel + 1 =>
    let printed := fill (format.length + 1) printing format
    if printed.isOver || printed.arguments.isEmpty
        || printed.arguments.length = printing.arguments.length then printed
    else fillAll fuel printed format

end Printing

/-- What `printf` prints and complains of. -/
def formatted (arguments : List Text) : Printing :=
  let start : Printing := ⟨[], [], [], 0, false⟩
  let illegal (c : Char) : Printing := start.abort ("Illegal option -".toList ++ [c])
  let rest :=
    match arguments with
    | ['-', '-'] :: rest => rest
    | _ => arguments
  match arguments, rest with
  | ('-' :: c :: _) :: _, _ :: _ =>
    if c = '-' then
      match rest with
      | format :: values => ({ start with arguments := values }).fillAll (values.length + 1) format
      | [] => start
    else illegal c
  | _, format :: values => ({ start with arguments := values }).fillAll (values.length + 1) format
  | _, [] => start.abort "usage: printf format [arg ...]".toList

end CommandShell.Script
