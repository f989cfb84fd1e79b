import CommandShell.Script.Expansion

/-!
Redirections: where the descriptors of a command lead.
-/

set_option autoImplicit false

namespace CommandShell.Script

/-- A redirection whose target is known. -/
inductive Redirected
  | target (descriptor : Nat) (direction : Direction) (target : Text)
  | content (descriptor : Nat) (text : Text)

/-- Why a path cannot be followed. What a missing file is called depends on what it is wanted for. -/
def reason (missing : String) : FileSystem.WalkFault → Text
  | .noEntry | .notDirectory => missing.toList
  | .tooManyLinks => "Too many levels of symbolic links".toList
  | .nameTooLong => "File name too long".toList

/-- The permissions of a new file. -/
def newMode (scene : Scene) : Mode := 0o666 - (0o666 &&& scene.mask)

namespace Play

/-- Leads a descriptor elsewhere, or nowhere. -/
def lead (descriptor : Nat) (channel : Option Channel) : Play Unit :=
  modify fun scene =>
    let others := scene.channels.filter (·.1 ≠ descriptor)
    { scene with
      channels := match channel with
        | some channel => (descriptor, channel) :: others
        | none => others }

/-- A channel from which bytes are read. -/
def source (bytes : Bytes) : Play Channel :=
  modifyGet fun scene =>
    let (scene, number) := scene.withQueue bytes
    (.source number, scene)

/-- Opens a file that is read. -/
def openSource (path : Text) : Play Channel := do
  let scene ← get
  match scene.openToRead scene.channels scene.working (toBytes path) with
  | .ok (shared, channel) =>
    set { scene with toShared := shared }
    return channel
  | .error fault =>
    fail ("cannot open ".toList ++ path ++ ": ".toList ++ reason "No such file" fault)

/-- Opens a file that is written, and that is read too if the direction is both. -/
def openTarget (direction : Direction) (path : Text) : Play Channel := do
  let refuse (why : Text) : Play Channel :=
    fail ("cannot create ".toList ++ path ++ ": ".toList ++ why)
  let empties := direction matches .write | .overwrite
  let add (place : Location) : Play Channel :=
    modifyGet fun scene =>
      let (shared, channel) := scene.addOpened
        ⟨.place place, 0, direction matches .both, true, direction matches .append⟩
      (channel, { scene with toShared := shared })
  let scene ← get
  match scene.resolve scene.channels scene.working false (toBytes path) with
  | .error fault => refuse (reason "Directory nonexistent" fault)
  | .ok (.inr channel) => return channel
  | .ok (.inl place) =>
    match scene.files.node? place with
    | none =>
      set { scene with files := scene.files.put place (.file (newMode scene) []) }
      add place
    | some (.file mode _) =>
      if direction = .write && scene.isSet 'C' then refuse "File exists".toList
      else
        if empties then set { scene with files := scene.files.put place (.file mode []) }
        add place
    | some (.directory _) => refuse "Is a directory".toList
    | some _ => return .nowhere

/-- Carries out a redirection. -/
def redirect : Redirected → Play Unit
  | .content descriptor text => do lead descriptor (some (← source (toBytes text)))
  | .target descriptor direction target => do
    match direction with
    | .read | .document _ => lead descriptor (some (← openSource target))
    | .both | .write | .overwrite | .append => lead descriptor (some (← openTarget direction target))
    | .duplicate =>
      if target = ['-'] then lead descriptor none
      else
        match (← get).channels.lookup ((Decimal.parse target).toOption.getD 0) with
        | some channel => lead descriptor (some channel)
        | none => fail (target ++ ": Bad file descriptor".toList)

/-- Whether a text says what a descriptor can be made a copy of. -/
def isCopied (target : Text) : Bool :=
  match target with
  | [c] => c.isDigit || c = '-'
  | _ => false

/-- Complains of a mistake in the text that is read. -/
def failFor (fault : Fault) : Play Unit := do
  modify fun scene => { scene with line := fault.line }
  fail fault.mistake.message

/-- The text of a document. It is made in a copy of the script's surroundings: what goes wrong there
leaves it empty. -/
def expandDocument (perform : Statement → Play Text) (word : Word) : Play Text := do
  let outer ← get
  let text ← do
    try pure (Atom.text (← atoms perform nestingLimit word))
    catch
      | .kill signal => throw (.kill signal)
      | _ => pure []
  modify fun inner =>
    { outer with toShared := inner.toShared, pending := inner.pending }
  return text

/-- Finds out the target of a redirection. -/
def expandRedirect (perform : Statement → Play Text) : Redirect → Play Redirected
  | .mk descriptor (.document number) _ => do
    let word := ((← get).source.documents.lookup number).getD []
    return .content descriptor (← expandDocument perform word)
  | .mk descriptor direction target => do
    let target ← expandWhole perform false target
    if direction = .duplicate && !isCopied target then
      failFor ⟨(← get).source.line, .descriptor⟩
    return .target descriptor direction target

def expandRedirects (perform : Statement → Play Text) (redirects : List Redirect) :
    Play (List Redirected) :=
  redirects.mapM (expandRedirect perform)

def redirectAll (redirected : List Redirected) : Play Unit := redirected.forM redirect

/-- Plays, and lets the descriptors lead where they led before, however that ends. -/
def keepingChannels {α : Type} (play : Play α) : Play α := do
  let channels := (← get).channels
  try play
  finally modify fun scene => { scene with channels := channels }

end Play

end CommandShell.Script
