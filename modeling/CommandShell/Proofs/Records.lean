import CommandShell.Log.Note
import CommandShell.Proofs.Quoted

/-!
Reading back what the records of a log say: commands, what they stand for, and how programs ended.
-/

set_option autoImplicit false

namespace CommandShell

namespace Decimal

/-- The number that digits stand for, behind a minus sign or not. -/
def readInt : Text → Int
  | '-' :: digits => -(Nat.ofDigitChars 10 digits 0 : Int)
  | digits => (Nat.ofDigitChars 10 digits 0 : Int)

theorem readInt_printInt (i : Int) : readInt (printInt i) = i := by
  have digits (n : Nat) : Nat.ofDigitChars 10 (print n) 0 = n := Nat.ofDigitChars_ten_toDigits
  rw [printInt]
  split
  next negative =>
    change -(Nat.ofDigitChars 10 (print i.natAbs) 0 : Int) = i
    rw [digits]
    omega
  next positive =>
    have unsigned : readInt (print i.natAbs) = (Nat.ofDigitChars 10 (print i.natAbs) 0 : Int) := by
      unfold readInt
      split
      next others shown =>
        have digit : '-'.isDigit = true := Nat.isDigit_of_mem_toDigits (b := 10) (n := i.natAbs)
          (by decide) (by decide) (by rw [← print, shown]; exact List.mem_cons_self)
        cases digit
      next => rfl
    rw [unsigned, digits]
    omega

end Decimal

/-- Reads how a program ended. -/
def Termination.read (t : Text) : Option Termination :=
  match "exit status ".toList.isPrefixOf? t, "signal ".toList.isPrefixOf? t with
  | some code, _ => some (.exited (Decimal.readInt code))
  | none, some signal => some (.signaled (Decimal.readInt signal))
  | none, none => none

theorem Termination.read_display (termination : Termination) :
    read termination.display = some termination := by
  cases termination with
  | exited code =>
    change some (exited (Decimal.readInt (Decimal.printInt code))) = _
    rw [Decimal.readInt_printInt]
  | signaled signal =>
    change some (signaled (Decimal.readInt (Decimal.printInt signal))) = _
    rw [Decimal.readInt_printInt]

namespace Resolution

/-- The resolutions that are shown by a fixed text. -/
def named : List (Text × Resolution) :=
  [("Builtin(Echo)".toList, .builtin .echo), ("Builtin(Type)".toList, .builtin .type),
    ("Builtin(Exit)".toList, .builtin .exit), ("NotFound".toList, .notFound)]

/-- Reads what a command stands for. -/
def read (t : Text) : Option Resolution :=
  (named.lookup t).or do
    let shown ← "Executable(".toList.isPrefixOf? t
    if shown.getLast? = some ')' then (Quoted.read shown.dropLast).map .executable else none

theorem read_display (resolution : Resolution) : read resolution.display = some resolution := by
  cases resolution with
  | builtin builtin => cases builtin <;> decide
  | notFound => decide
  | executable path =>
    change (if (Quoted.bytes path ++ [')']).getLast? = some ')' then
      (Quoted.read (Quoted.bytes path ++ [')']).dropLast).map executable else none) = _
    rw [if_pos List.getLast?_concat, List.dropLast_concat, Quoted.read_bytes]
    rfl

end Resolution

namespace Record

/-- The value of the first field of a name. -/
def field? (record : Record) (name : String) : Option Text :=
  (record.fields.find? (·.name = name.toList)).map Field.value

/-- The command that a record is about. -/
def command? (record : Record) : Option Text :=
  ((record.field? "command").bind Quoted.read).bind Utf8.decode

/-- What the command stands for. -/
def resolution? (record : Record) : Option Resolution :=
  (record.field? "resolution").bind Resolution.read

/-- How the program has ended. -/
def termination? (record : Record) : Option Termination :=
  (record.field? "termination").bind Termination.read

theorem command?_of_fields {record : Record} {command : Text} {rest : List Field}
    (fields : record.fields = ⟨"command".toList, Quoted.text command⟩ :: rest) :
    record.command? = some command := by
  have first : record.field? "command" = some (Quoted.text command) := by
    rw [field?, fields, List.find?_cons_of_pos (by simp)]
    rfl
  rw [command?, first, Option.bind_some, Quoted.read_text, Option.bind_some]
  exact (Utf8.decode_eq_some_iff _ _).mpr rfl

end Record

end CommandShell
