import CommandShell.Options.Error
import CommandShell.Options.Similar

/-!
Reading the arguments of the command line.

Options may come in any order. A value that stands apart from its option is looked at only when the
next option or the end is reached, so an argument that is no option at all is complained of first.
-/

set_option autoImplicit false

namespace CommandShell.Options

/-- How an argument is written. -/
inductive Argument
  /-- After this one there are no more options. -/
  | dashes
  /-- A long option, with the value after its equals sign. -/
  | long (name : Bytes) (value : Option Bytes)
  /-- One-letter options in a row. -/
  | letters (pieces : List Utf8.Piece)
  | word (word : Bytes)

def equals : UInt8 := 0x3D

def Argument.ofBytes : Bytes → Argument
  | [0x2D, 0x2D] => .dashes
  | 0x2D :: 0x2D :: rest =>
    .long (rest.takeWhile (· != equals)) (rest.dropWhile (· != equals)).tail?
  | 0x2D :: first :: others => .letters (Utf8.toPieces (first :: others))
  | argument => .word argument

/-- A value that is not read yet. -/
inductive Pending
  | none
  /-- The history size option stands without a value so far. -/
  | awaited
  | held (value : Bytes)

/-- What the arguments read so far say: the options settled, in order, and the history size. -/
structure Progress where
  given : List Switch
  historySize : Option Nat
  pending : Pending

namespace Progress

def start : Progress := ⟨[], .none, .none⟩

/-- Reads a value for the history size. -/
def takeValue (progress : Progress) (value : Bytes) : Except UsageError Progress :=
  match Utf8.decode value with
  | none => .error .notText
  | some text =>
    match Decimal.parse text with
    | .error fault => .error (.invalidValue .historySize text fault)
    | .ok size =>
      .ok ⟨progress.given ++ [.historySize], some size, .none⟩

/-- Reads a value given with the option itself, which may be given once. -/
def takeOwnValue (progress : Progress) (value : Bytes) : Except UsageError Progress :=
  if .historySize ∈ progress.given then .error (.repeated .historySize)
  else progress.takeValue value

/-- Deals with the value that is not read yet. -/
def settle (progress : Progress) : Except UsageError Progress :=
  match progress.pending with
  | .none => .ok progress
  | .awaited => .error (.missingValue .historySize)
  | .held value => ({ progress with pending := .none }).takeOwnValue value

/-- Takes an option that stands for itself. -/
def takeFlag (progress : Progress) (switch : Switch) : Except UsageError Progress := do
  let settled ← progress.settle
  match switch with
  | .help => throw .help
  | .version => throw .version
  | _ =>
    if switch ∈ settled.given then throw (.repeated switch)
    return { settled with given := settled.given ++ [switch] }

/-- Puts an option behind others unless it is among them. -/
def insertLast (switches : List Switch) (switch : Switch) : List Switch :=
  if switch ∈ switches then switches else switches ++ [switch]

/-- The options given, in the order in which they first stood, be the last value good or not. -/
def named (progress : Progress) : List Switch :=
  match progress.pending with
  | .held _ => insertLast progress.given .historySize
  | .none | .awaited => progress.given

/-- The complaint about a long option nobody knows: the usage names the options given and the one
that may have been meant. -/
def unknownLong (progress : Progress) (name : Text) : UsageError :=
  let similar := Similar.best Switch.long name Switch.all
  .unknown ("--".toList ++ name) similar
    (.naming (similar.toList.foldl insertLast progress.named))

/-- The complaint about a value for an option that takes none. A value that is not read yet has no
part in it. -/
def surplus (progress : Progress) (switch : Switch) (value : Bytes) : UsageError :=
  let usage : Usage :=
    if progress.given.isEmpty then .naming [switch]
    else .anySetting (if switch ∈ Switch.settings then .none else some switch)
  .surplusValue switch (Utf8.lossy value) usage

def takeLong (progress : Progress) (name : Bytes) (value : Option Bytes) :
    Except UsageError Progress :=
  match (Utf8.decode name).bind Switch.ofLong? with
  | none => .error (progress.unknownLong (Utf8.lossy name))
  | some switch =>
    if switch.takesValue then do
      let settled ← progress.settle
      match value with
      | some value => settled.takeOwnValue value
      | none => return { settled with pending := .awaited }
    else
      match value with
      | some value => .error (progress.surplus switch value)
      | none => progress.takeFlag switch

def takeLetters (progress : Progress) : List Utf8.Piece → Except UsageError Progress
  | [] => .ok progress
  | .char c :: rest =>
    match Switch.ofShort? c with
    | some switch => do takeLetters (← progress.takeFlag switch) rest
    | none => .error (.unknown ['-', c] none .general)
  | piece :: rest =>
    .error (.unknown ('-' :: (piece :: rest).map (·.char?.getD '\uFFFD')) none .general)

/-- The complaint about a word that belongs to no option. -/
def unknownWord (word : Bytes) : UsageError := .unknown (Utf8.lossy word) none .general

def takeWord (progress : Progress) (word : Bytes) : Except UsageError Progress :=
  match progress.pending with
  | .awaited => .ok { progress with pending := .held word }
  | .none | .held _ => .error (unknownWord word)

/-- Reads all arguments. -/
def takeAll (progress : Progress) : List Bytes → Except UsageError Progress
  | [] => progress.settle
  | argument :: rest =>
    match Argument.ofBytes argument with
    | .dashes =>
      match rest with
      | [] => progress.settle
      | word :: _ => .error (unknownWord word)
    | .long name value => do takeAll (← progress.takeLong name value) rest
    | .letters pieces => do takeAll (← progress.takeLetters pieces) rest
    | .word word => do takeAll (← progress.takeWord word) rest

/-- Without the history size option the environment's value stands in, if there is one. -/
def inherit (progress : Progress) (inherited : Option Bytes) : Except UsageError Progress :=
  if .historySize ∈ progress.given then .ok progress
  else
    match inherited with
    | some value => progress.takeValue value
    | none => .ok progress

/-- Quiet and debug exclude each other. -/
def checkConflict (progress : Progress) : Except UsageError Progress :=
  match progress.given.filter (· ∈ [Switch.quiet, Switch.debug]) with
  | first :: second :: _ =>
    .error (.conflict first second (.naming (progress.given.filter (· ≠ second))))
  | _ => .ok progress

def options (progress : Progress) : Options where
  quiet := .quiet ∈ progress.given
  debug := .debug ∈ progress.given
  historySize := progress.historySize.getD defaultHistorySize
  noCompletion := .noCompletion ∈ progress.given

end Progress

/-- The options that some arguments ask for, given the environment's value for the history size. -/
def parse (inherited : Option Bytes) (arguments : List Bytes) : Except UsageError Options := do
  let progress ← Progress.start.takeAll arguments
  let progress ← progress.inherit inherited
  return (← progress.checkConflict).options

end CommandShell.Options
