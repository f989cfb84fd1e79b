import CommandShell.Session.Run
import CommandShell.Text.Cluster

/-!
Lines from an input that is not a terminal.
-/

set_option autoImplicit false

namespace CommandShell.Input

def lineFeed : UInt8 := 0x0A

def carriageReturn : UInt8 := 0x0D

def backspace : Char := '\x08'

/-- Drops a carriage return at the end. -/
def dropReturn (line : Bytes) : Bytes :=
  if line.getLast? = some carriageReturn then line.dropLast else line

/-- The next line and what follows it. A line ends at a line feed, which is dropped with one
carriage return before it; the last line may lack its line feed. -/
def nextLine (input : Bytes) : Option (Bytes × Bytes) :=
  let line := input.takeWhile (· != lineFeed)
  match input.dropWhile (· != lineFeed) with
  | _ :: rest => some (dropReturn line, rest)
  | [] => if input.isEmpty then none else some (line, [])

/-- What follows a line is shorter than what began with it. -/
theorem length_lt_of_nextLine {input line rest : Bytes}
    (found : nextLine input = some (line, rest)) : rest.length < input.length := by
  simp only [nextLine] at found
  split at found
  next first others split =>
    cases found
    have shorter : (input.dropWhile (· != lineFeed)).length ≤ input.length :=
      (List.dropWhile_sublist _).length_le
    rw [split, List.length_cons] at shorter
    omega
  next =>
    split at found
    · cases found
    next some =>
      cases found
      cases input with
      | nil => simp at some
      | cons first others => simp

/-- Drops characters that take so many bytes, unless that would cut one. -/
def dropBytes : Nat → Text → Option Text
  | 0, t => some t
  | _ + 1, [] => none
  | n + 1, c :: rest =>
    if (Utf8.encodeChar c).length ≤ n + 1 then dropBytes (n + 1 - (Utf8.encodeChar c).length) rest
    else none

/-- What is kept of a line: its characters and the sizes of its clusters, both in reverse. -/
structure Draft where
  kept : Text
  sizes : List Nat

namespace Draft

def empty : Draft := ⟨[], []⟩

/-- The sizes of clusters are kept in one byte each. -/
def sizeLimit : Nat := 256

def add (draft : Draft) (cluster : Text) : Draft :=
  ⟨cluster.reverse ++ draft.kept, Utf8.size cluster % sizeLimit :: draft.sizes⟩

/-- Takes as much away as the size of the last cluster says. There is no telling what is left of a
character that is cut. -/
def erase (draft : Draft) : Option Draft :=
  match draft.sizes with
  | [] => some draft
  | size :: sizes => (dropBytes size draft.kept).map (⟨·, sizes⟩)

/-- Carries out what a cluster says: a backspace erases, any other is added. -/
def take (draft : Draft) (cluster : Text) : Option Draft :=
  if cluster = [backspace] then draft.erase else some (draft.add cluster)

end Draft

/-- A line with its backspaces carried out, unless one cuts a character. -/
def edit (line : Text) : Option Text :=
  if backspace ∈ line then
    ((Cluster.split line).foldlM Draft.take .empty).map (·.kept.reverse)
  else some line

/-- Why a line that is not UTF-8 cannot be read. -/
def notText : InputError := .ofEditor (.io "stream did not contain valid UTF-8".toList)

/-- What a line of the input reads as. The reader does not survive a character that is cut. -/
def reading (line : Bytes) : Reading :=
  match Utf8.decode line with
  | some text =>
    match edit text with
    | some edited => .line edited
    | none => .failed .closed
  | none => .failed notText

/-- The lines of an input, in order. -/
def lines (input : Bytes) : List Bytes :=
  match _found : nextLine input with
  | none => []
  | some (line, rest) => line :: lines rest
termination_by input.length
decreasing_by exact length_lt_of_nextLine _found

end CommandShell.Input

namespace CommandShell.Session

variable {ω σ : Type}

/-- Runs a session on an input, taking a line off it whenever one is asked for. -/
def runInput (setting : Setting ω σ) (input : Bytes) : Act ω σ ShellError Nat :=
  match _found : Input.nextLine input with
  | none => do
    awaitLine setting
    finish setting
  | some (line, rest) => do
    match ← turn setting (.plain (Input.reading line)) with
    | some code => return code
    | none => runInput setting rest
termination_by input.length
decreasing_by exact Input.length_lt_of_nextLine _found

end CommandShell.Session
