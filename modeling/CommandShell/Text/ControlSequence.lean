import CommandShell.Text.Utf8

/-!
Control sequences: the stretches of a text that steer a terminal and are not shown. Text that goes
elsewhere is stripped of them, and of the other control characters.
-/

set_option autoImplicit false

namespace CommandShell.ControlSequence

def escape : Char := '\x1b'

/-- What the characters read so far have come to. -/
inductive Stage
  /-- No sequence is open. -/
  | plain
  /-- An escape character. -/
  | opened
  /-- An escape character, and some that go before the final one. -/
  | lengthened
  /-- An escape character and a bracket: parameters up to a final character. -/
  | parameters
  /-- The start of a string for a device. -/
  | device
  /-- The parameters before a string for a device. -/
  | deviceParameters
  /-- The characters between those parameters and the string. -/
  | deviceLengthened
  /-- A string for the system, which a bell ends. -/
  | system
  /-- A string for nobody to see. -/
  | hidden
  deriving DecidableEq

/-- Control characters that lay out text, and so are kept. -/
def isLayout (c : Char) : Bool := c ∈ ['\t', '\n', '\x0c', '\r']

/-- Whether a character is shown where no sequence is open. -/
def isPlain (c : Char) : Bool := isLayout c || (' ' ≤ c && c ≠ '\x7f')

namespace Stage

/-- The stage after a character that starts or continues the string for a device. -/
def intoDevice (stage : Stage) (c : Char) : Stage :=
  if ' ' ≤ c && c ≤ '/' then .deviceLengthened
  else if '0' ≤ c && c ≤ '?' then
    if stage = .deviceLengthened || (stage = .deviceParameters && '<' ≤ c) then .hidden
    else .deviceParameters
  else if '@' ≤ c && c ≤ '~' then .hidden
  else stage

/-- Escape opens a sequence wherever it stands, and two other control characters end one. -/
def next (stage : Stage) (c : Char) : Stage :=
  if c = escape then .opened
  else if c = '\x18' || c = '\x1a' then .plain
  else
    match stage with
    | .plain => .plain
    | .opened =>
      if c = '[' then .parameters
      else if c = ']' then .system
      else if c = 'P' then .device
      else if c = 'X' || c = '^' || c = '_' then .hidden
      else if ' ' ≤ c && c ≤ '/' then .lengthened
      else if '0' ≤ c && c ≤ '~' then .plain
      else .opened
    | .lengthened => if '0' ≤ c && c ≤ '~' then .plain else .lengthened
    | .parameters => if '@' ≤ c && c ≤ '~' then .plain else .parameters
    | .device | .deviceParameters | .deviceLengthened => stage.intoDevice c
    | .system => if c = '\x07' then .plain else .system
    | .hidden => if (Utf8.encodeChar c).contains 0x9C then .plain else .hidden

/-- Whether a character is shown at a stage: layout is, unless it stands in a string. -/
def shows (stage : Stage) (c : Char) : Bool :=
  match stage with
  | .plain => isPlain c
  | .opened | .lengthened | .parameters => isLayout c
  | .device | .deviceParameters | .deviceLengthened | .system | .hidden => false

end Stage

/-- How far a text has been read. Layout inside a sequence suspends it: what follows is shown as if
none were open, up to the next character that is not, and there the sequence goes on. -/
structure Reader where
  stage : Stage
  /-- Whether the last character was shown. -/
  showing : Bool
  deriving DecidableEq

namespace Reader

def start : Reader := ⟨.plain, false⟩

def shows (reader : Reader) (c : Char) : Bool :=
  if reader.showing then isPlain c else reader.stage.shows c

/-- A character of several bytes that is shown ends a suspended sequence. -/
def next (reader : Reader) (c : Char) : Reader :=
  if reader.shows c then ⟨if c ≤ '\x7f' then reader.stage else .plain, true⟩
  else ⟨reader.stage.next c, false⟩

end Reader

/-- The characters of a text that are shown. -/
def stripFrom (reader : Reader) : Text → Text
  | [] => []
  | c :: rest =>
    let shown := stripFrom (reader.next c) rest
    if reader.shows c then c :: shown else shown

/-- The characters of a whole text that are shown. -/
def strip (t : Text) : Text := stripFrom .start t

/-- A text is stripped piece by piece. -/
theorem stripFrom_append (reader : Reader) (t rest : Text) :
    stripFrom reader (t ++ rest)
      = stripFrom reader t ++ stripFrom (t.foldl Reader.next reader) rest := by
  induction t generalizing reader with
  | nil => rfl
  | cons c t ih =>
    simp only [List.cons_append, stripFrom, List.foldl_cons, ih]
    split <;> rfl

theorem stripFrom_plain (showing : Bool) (t : Text) :
    stripFrom ⟨.plain, showing⟩ t = strip t := by
  cases t with
  | nil => rfl
  | cons c t =>
    cases showing <;>
      simp [strip, Reader.start, stripFrom, Reader.next, Reader.shows, Stage.shows]

/-- Text without control characters is stripped of nothing. -/
theorem strip_append_of_shown (t rest : Text) (shown : t.all isPlain = true) :
    strip (t ++ rest) = t ++ strip rest := by
  induction t with
  | nil => rfl
  | cons c t ih =>
    rw [List.all_cons, Bool.and_eq_true] at shown
    have after : (Reader.start.next c) = ⟨.plain, true⟩ := by
      simp [Reader.next, Reader.shows, Reader.start, Stage.shows, shown.1]
    have first : Reader.start.shows c = true := shown.1
    rw [List.cons_append, strip, stripFrom, after, stripFrom_plain, first, ih shown.2]
    rfl

end CommandShell.ControlSequence
