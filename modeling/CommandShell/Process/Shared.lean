import CommandShell.FileSystem.Walk
import CommandShell.Text.Decimal

/-!
What processes share: the files, the queues of bytes between them, and the files they have opened.
-/

set_option autoImplicit false

namespace CommandShell

/-- Where a descriptor of a process leads. -/
inductive Channel
  /-- The end of a queue at which it is read. -/
  | source (queue : Nat)
  /-- The end of a queue at which it is written. -/
  | sink (queue : Nat)
  /-- An opened file, by its number. -/
  | opened (number : Nat)
  /-- A device that has nothing to read and takes everything. -/
  | nowhere
  deriving DecidableEq

/-- What an opened file is. -/
inductive OpenTarget
  /-- What is at a place, whatever becomes of it. -/
  | place (place : Location)
  /-- A file that has been removed since it was opened. -/
  | removed (content : Bytes)
  deriving DecidableEq

/-- A file that has been opened. All descriptors that lead to it share its position. -/
structure OpenFile where
  target : OpenTarget
  /-- Where the next byte is read or written. -/
  position : Nat
  readable : Bool
  writable : Bool
  /-- Whatever is written goes to the end. -/
  appending : Bool

/-- Why nothing can be read from a descriptor. -/
inductive ReadFault
  | badDescriptor
  | isDirectory

def ReadFault.reason : ReadFault → Text
  | .badDescriptor => "Bad file descriptor".toList
  | .isDirectory => "Is a directory".toList

structure Shared where
  files : FileSystem
  queues : List (Nat × Bytes)
  opened : List (Nat × OpenFile)

/-- The descriptor that a path stands for. -/
def standing? (path : Path) : Option Nat :=
  let text := Utf8.lossy path
  match String.ofList text with
  | "/dev/stdin" => some 0
  | "/dev/stdout" => some 1
  | "/dev/stderr" => some 2
  | _ =>
    if "/dev/fd/".toList.isPrefixOf text then
      match Decimal.parse (text.drop 8) with
      | .ok number => if Decimal.print number = text.drop 8 then some number else none
      | .error _ => none
    else none

/-- Bytes written over others at a position; a gap before it is filled. -/
def overwrite (content : Bytes) (position : Nat) (bytes : Bytes) : Bytes :=
  content.take position ++ List.replicate (position - content.length) 0 ++ bytes
    ++ content.drop (position + bytes.length)

/-- Bytes written at the end come behind the others. -/
theorem overwrite_at_end (content bytes : Bytes) :
    overwrite content content.length bytes = content ++ bytes := by
  simp [overwrite]

/-- Writing makes a file no shorter, and long enough for what is written. -/
theorem length_overwrite (content : Bytes) (position : Nat) (bytes : Bytes) :
    (overwrite content position bytes).length = max content.length (position + bytes.length) := by
  simp only [overwrite, List.length_append, List.length_take, List.length_replicate,
    List.length_drop]
  omega

namespace Shared

/-! ## Queues -/

def queue (shared : Shared) (number : Nat) : Bytes := (shared.queues.lookup number).getD []

def setQueue (shared : Shared) (number : Nat) (bytes : Bytes) : Shared :=
  { shared with queues := (number, bytes) :: shared.queues.filter (·.1 ≠ number) }

@[simp] theorem queue_setQueue (shared : Shared) (number : Nat) (bytes : Bytes) :
    (shared.setQueue number bytes).queue number = bytes := by
  simp [queue, setQueue]

/-- A queue that is new, and its number. -/
def openQueue (shared : Shared) (bytes : Bytes) : Shared × Nat :=
  let number := shared.queues.foldl (fun most queue => max most (queue.1 + 1)) 3
  (shared.setQueue number bytes, number)

/-! ## Opened files -/

/-- The bytes of an opened file, unless it is a directory. -/
def content? (shared : Shared) : OpenTarget → Option Bytes
  | .removed content => some content
  | .place place =>
    match shared.files.node? place with
    | some (.directory _) => none
    | some (.file _ content) => some content
    | _ => some []

/-- Puts an opened file in its number's place. -/
def setOpened (shared : Shared) (number : Nat) (file : OpenFile) : Shared :=
  { shared with
    opened := shared.opened.map fun (other, old) => (other, if other = number then file else old) }

/-- Opens a file, so that it gets a number. -/
def addOpened (shared : Shared) (file : OpenFile) : Shared × Channel :=
  let number := match shared.opened with
    | (last, _) :: _ => last + 1
    | [] => 0
  ({ shared with opened := (number, file) :: shared.opened }, .opened number)

/-- Gives an opened file other bytes. One that is at a place keeps its permissions. -/
def setContent (shared : Shared) (number : Nat) (file : OpenFile) (content : Bytes) : Shared :=
  match file.target with
  | .removed _ => shared.setOpened number { file with target := .removed content }
  | .place place =>
    match shared.files.node? place with
    | some (.file mode _) =>
      { shared.setOpened number file with files := shared.files.put place (.file mode content) }
    | _ => shared

/-- Changes the files. A removed file stays what it was for those who have opened it. -/
def withFiles (shared : Shared) (files : FileSystem) : Shared :=
  let kept (file : OpenFile) : OpenFile :=
    match file.target with
    | .removed _ => file
    | .place place =>
      match shared.files.node? place, files.node? place with
      | some (.file _ content), none => { file with target := .removed content }
      | _, _ => file
  { shared with files := files, opened := shared.opened.map fun (number, file) => (number, kept file) }

/-! ## Reading and writing -/

/-- What is left to be read. -/
def remaining (shared : Shared) : Option Channel → Except ReadFault Bytes
  | none | some (.sink _) => .error .badDescriptor
  | some (.source number) => .ok (shared.queue number)
  | some .nowhere => .ok []
  | some (.opened number) =>
    match shared.opened.lookup number with
    | none => .error .badDescriptor
    | some file =>
      if !file.readable then .error .badDescriptor
      else
        match shared.content? file.target with
        | some content => .ok (content.drop file.position)
        | none => .error .isDirectory

/-- Reads, so that only the end of what was left to be read remains. -/
def leave (shared : Shared) (channel : Option Channel) (rest : Bytes) : Shared :=
  match channel with
  | some (.source number) => shared.setQueue number rest
  | some (.opened number) =>
    match shared.opened.lookup number with
    | none => shared
    | some file =>
      let length := ((shared.content? file.target).getD []).length
      shared.setOpened number
        { file with position := max file.position (length - rest.length) }
  | _ => shared

/-- Writes, and tells whether that can be done. -/
def write (shared : Shared) (channel : Option Channel) (bytes : Bytes) : Shared × Bool :=
  match channel with
  | none | some (.source _) => (shared, bytes.isEmpty)
  | some (.sink number) => (shared.setQueue number (shared.queue number ++ bytes), true)
  | some .nowhere => (shared, true)
  | some (.opened number) =>
    match shared.opened.lookup number with
    | none => (shared, bytes.isEmpty)
    | some file =>
      if bytes.isEmpty then (shared, true)
      else if !file.writable then (shared, false)
      else
        let content := (shared.content? file.target).getD []
        let position := if file.appending then content.length else file.position
        let moved := { file with position := position + bytes.length }
        (shared.setContent number moved (overwrite content position bytes), true)

/-- Whether a channel leads to a file that another leads to. -/
def sameFile (shared : Shared) (channel other : Option Channel) : Bool :=
  match channel, other with
  | some (.opened first), some (.opened second) =>
    match shared.opened.lookup first, shared.opened.lookup second with
    | some first, some second =>
      match first.target, second.target with
      | .place first, .place second => first = second
      | _, _ => false
    | _, _ => false
  | _, _ => false

/-- What a path leads to that is opened: a place, or a channel where the path stands for a descriptor
that leads to no place. A queue is opened at either end. -/
def resolve (shared : Shared) (channels : List (Nat × Channel)) (working : Location) (reads : Bool)
    (path : Path) : Except FileSystem.WalkFault (Location ⊕ Channel) :=
  match standing? path with
  | none => (shared.files.locate ⟨true, true⟩ working path).map .inl
  | some number =>
    match channels.lookup number with
    | none => .error .noEntry
    | some (.source queue) | some (.sink queue) =>
      .ok (.inr (if reads then .source queue else .sink queue))
    | some .nowhere => .ok (.inr .nowhere)
    | some (.opened number) =>
      match shared.opened.lookup number with
      | some ⟨.place place, _, _, _, _⟩ => .ok (.inl place)
      | _ => .ok (.inr (.opened number))

/-- Opens a file that is read. -/
def openToRead (shared : Shared) (channels : List (Nat × Channel)) (working : Location)
    (path : Path) : Except FileSystem.WalkFault (Shared × Channel) := do
  match ← shared.resolve channels working true path with
  | .inr channel => return (shared, channel)
  | .inl place =>
    match shared.files.node? place with
    | none => throw .noEntry
    | some (.file _ _) | some (.directory _) =>
      return shared.addOpened ⟨.place place, 0, true, false, false⟩
    | some _ => return (shared, .nowhere)

end Shared

end CommandShell
