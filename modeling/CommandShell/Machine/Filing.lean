import CommandShell.Machine.Permission
import CommandShell.Machine.Task

/-!
The programs that make, move and remove files.
-/

set_option autoImplicit false

namespace CommandShell.Task

/-! ## Making -/

/-- The permissions that new directories and files have. -/
def newDirectoryMode (task : Task) : Mode := Permission.without 0o777 task.mask

def newFileMode (task : Task) : Mode := Permission.without 0o666 task.mask

/-- Makes a directory. One that is there may be taken for the new one, above all on the way to
another. -/
def makeDirectory (mode : Mode) (mayExist onTheWay told : Bool) (path : Path) : Work Bool := do
  let what := "cannot create directory ".toList ++ quotedName path
  match ← locate ⟨false, true⟩ (FileSystem.trimEnd path) with
  | .error fault =>
    complainOfWalk what fault
    return false
  | .ok place =>
    if (← node? place).isSome then
      if mayExist && (← isDirectory path) then return true
      complain (what ++ (if onTheWay then ": Not a directory" else ": File exists").toList)
      return false
    else
      setFiles ((← get).files.put place (.directory mode))
      if told then
        print (← ownName)
        printLine (": created directory ".toList ++ quotedName path)
      return true

/-- The beginnings of a path that end before a slash, and the path itself. -/
def beginnings (path : Path) : List Path :=
  ((FileSystem.parents path).filter fun front => !(FileSystem.trimEnd front).isEmpty).reverse
    ++ [FileSystem.trimEnd path]

def makeDirectories : Operands.Table × (Operands → Work Unit) :=
  (⟨['p', 'v'], ['m'], [("mode", 'm'), ("parents", 'p'), ("verbose", 'v')]⟩, fun operands => do
    let task ← get
    let usual := task.newDirectoryMode
    if operands.operands.isEmpty then complainOfUse "missing operand".toList
    let mode := match operands.value? 'm' with
      | some text => Permission.change true task.mask (Utf8.lossy text) usual
      | none => some usual
    match mode with
    | none =>
      complain ("invalid mode ".toList ++ quotedName ((operands.value? 'm').getD []))
    | some mode =>
      for path in operands.operands do
        if operands.has 'p' && !path.isEmpty then
          let mut goesOn := true
          for front in beginnings path do
            if goesOn then
              let isLast := front = FileSystem.trimEnd path
              goesOn ← makeDirectory (if isLast then mode else usual) true (!isLast)
                (operands.has 'v') front
        else
          let _ ← makeDirectory mode false false (operands.has 'v') path)

/-- Makes an empty file, unless there is one. -/
def touchOne (mayMake : Bool) (path : Path) : Work Unit := do
  match ← locate ⟨true, true⟩ path with
  | .ok place =>
    if (← node? place).isNone && mayMake then
      setFiles ((← get).files.put place (.file (← get).newFileMode []))
  | .error fault =>
    let what := if path.getLast? = some Path.slash then "setting times of " else "cannot touch "
    if mayMake || fault ≠ .noEntry then complainOfWalk (what.toList ++ quotedName path) fault

def touch : Operands.Table × (Operands → Work Unit) :=
  (⟨['a', 'c', 'f', 'h', 'm'], ['d', 'r', 't'], [("no-create", 'c'), ("date", 'd'),
    ("no-dereference", 'h'), ("reference", 'r')]⟩, fun operands => do
    if operands.operands.isEmpty then complainOfUse "missing file operand".toList
    operands.operands.forM (touchOne (!operands.has 'c')))

/-! ## Removing -/

/-- Whether the last name of a path stands for a directory by its relation. -/
def endsInDots (path : Path) : Bool :=
  lastName path = FileSystem.here || lastName path = FileSystem.above

/-- Removes what is at a place, and tells so. -/
def removeTree (told : Bool) (path : Path) (place : Location) (node : Node) : Work Unit := do
  if told then
    let below := (← get).files.entries.filter fun (other, _) =>
      place.isPrefixOf other && other ≠ place
    for (other, node) in below.reverse do
      let name := (other.drop place.length).foldl Path.join path
      printLine ((if node.isDirectory then "removed directory " else "removed ").toList
        ++ quotedName name)
    printLine ((if node.isDirectory then "removed directory " else "removed ").toList
      ++ quotedName path)
  setFiles ((← get).files.withoutTree place)

def removeOne (operands : Operands) (path : Path) : Work Unit := do
  let what := "cannot remove ".toList ++ quotedName path
  let recursive := operands.has 'r' || operands.has 'R'
  if recursive && endsInDots path then
    complain ("refusing to remove '.' or '..' directory: skipping ".toList ++ quotedName path)
  else
    match ← locate ⟨false, false⟩ path with
    | .error fault =>
      if !(operands.has 'f' && (ExecFault.ofWalk fault).isAbsence) then complainOfWalk what fault
    | .ok place =>
      match ← node? place with
      | some (.directory mode) =>
        if recursive then removeTree (operands.has 'v') path place (.directory mode)
        else if !operands.has 'd' then complain (what ++ ": Is a directory".toList)
        else if ((← get).files.children place).isEmpty then
          removeTree (operands.has 'v') path place (.directory mode)
        else complain (what ++ ": Directory not empty".toList)
      | some node => removeTree (operands.has 'v') path place node
      | none => complainOfWalk what .noEntry

def remove : Operands.Table × (Operands → Work Unit) :=
  (⟨['f', 'i', 'I', 'r', 'R', 'd', 'v'], [], [("force", 'f'), ("recursive", 'r'), ("dir", 'd'),
    ("verbose", 'v')]⟩, fun operands => do
    if operands.operands.isEmpty && !operands.has 'f' then complainOfUse "missing operand".toList
    operands.operands.forM (removeOne operands))

/-- Removes an empty directory. -/
def removeDirectory (told : Bool) (path : Path) : Work Bool := do
  let what := "failed to remove ".toList ++ quotedName path
  if told then
    print (← ownName)
    printLine (": removing directory, ".toList ++ quotedName path)
  match ← locate ⟨false, false⟩ path with
  | .error fault =>
    complainOfWalk what fault
    return false
  | .ok place =>
    let refuse (why : String) : Work Bool := do
      complain (what ++ why.toList)
      return false
    if !(← get).files.isDirectory place then refuse ": Not a directory"
    else if lastName path = FileSystem.here then refuse ": Invalid argument"
    else if !((← get).files.children place).isEmpty || lastName path = FileSystem.above then
      refuse ": Directory not empty"
    else
      setFiles ((← get).files.withoutTree place)
      return true

def removeDirectories : Operands.Table × (Operands → Work Unit) :=
  (⟨['p', 'v'], [], [("parents", 'p'), ("verbose", 'v')]⟩, fun operands => do
    if operands.operands.isEmpty then complainOfUse "missing operand".toList
    for path in operands.operands do
      let mut goesOn := true
      for front in (if operands.has 'p' then (beginnings path).reverse else [path]) do
        if goesOn then goesOn ← removeDirectory (operands.has 'v') front)

/-! ## Moving and copying -/

/-- Carries out something for each source and its target. A directory as the last operand is where
the targets are to be. -/
def toTargets (operands : Operands) (noDirectory : Bool) (carry : Path → Path → Work Unit) :
    Work Unit := do
  match operands.operands with
  | [] => complainOfUse "missing file operand".toList
  | [only] =>
    complainOfUse ("missing destination file operand after ".toList ++ quotedName only)
  | [source, target] =>
    if !noDirectory && (← isDirectory target) then
      carry source (Path.join target (lastName source))
    else carry source target
  | paths =>
    let target := (paths.getLast?).getD []
    match ← reach target with
    | .error fault => complainOfWalk ("target ".toList ++ quotedName target) fault
    | .ok (_, node) =>
      if node.isDirectory then
        for source in paths.dropLast do carry source (Path.join target (lastName source))
      else complain ("target ".toList ++ quotedName target ++ ": Not a directory".toList)

/-- The place of a target, unless its slash asks for a directory that is not there. -/
def locateTarget (path : Path) (isDirectory : Bool) :
    Work (Except FileSystem.WalkFault Location) := do
  let trimmed := FileSystem.trimEnd path
  match ← locate ⟨false, true⟩ trimmed with
  | .ok place =>
    return if trimmed.length < path.length && !isDirectory && (← node? place).isNone
      then .error .notDirectory else .ok place
  | .error fault => return .error fault

/-- Tells what was made of what. -/
def tell (operands : Operands) (start : String) (source target : Path) : Work Unit := do
  if operands.has 'v' then
    printLine (start.toList ++ quotedName source ++ " -> ".toList ++ quotedName target)

def moveOne (operands : Operands) (source target : Path) : Work Unit := do
  match ← locate ⟨false, false⟩ source with
  | .error fault => complainOfWalk ("cannot stat ".toList ++ quotedName source) fault
  | .ok place =>
    let movesDirectory := (← get).files.isDirectory place
    match ← locateTarget target movesDirectory with
    | .error fault =>
      complainOfWalk ("cannot move ".toList ++ quotedName source ++ " to ".toList
        ++ quotedName target) fault
    | .ok new =>
      let old ← node? new
      let replacesDirectory := old.any Node.isDirectory
      if operands.has 'n' && old.isSome then return
      else if place = new then
        complain (quotedName source ++ " and ".toList ++ quotedName target
          ++ " are the same file".toList)
      else if movesDirectory && old.isSome && !replacesDirectory then
        complain ("cannot overwrite non-directory ".toList ++ quotedName target
          ++ " with directory ".toList ++ quotedName source)
      else if !movesDirectory && replacesDirectory then
        complain ("cannot overwrite directory ".toList ++ quotedName target
          ++ " with non-directory".toList)
      else if place.isPrefixOf new then
        complain ("cannot move ".toList ++ quotedName source ++ " to a subdirectory of itself, ".toList
          ++ quotedName target)
      else if !(← get).files.mayTake place new then
        complain ("cannot overwrite ".toList ++ quotedName target ++ ": Directory not empty".toList)
      else
        setFiles ((← get).files.move place new)
        tell operands "renamed " source target

def move : Operands.Table × (Operands → Work Unit) :=
  (⟨['f', 'i', 'n', 'u', 'v', 'T'], ['t'], [("force", 'f'), ("no-clobber", 'n'), ("verbose", 'v'),
    ("no-target-directory", 'T')]⟩, fun operands =>
    toTargets operands (operands.has 'T') (moveOne operands))

/-- Puts a copy of a file at a place. One that is there keeps its permissions. -/
def copyFile (source target : Path) (mode : Mode) (content : Bytes) : Work Bool := do
  let what := "cannot create regular file ".toList ++ quotedName target
  let place : Except FileSystem.WalkFault Location ←
    if target.getLast? = some Path.slash then
      match ← locate ⟨true, true⟩ (FileSystem.trimEnd target) with
      | .error fault => pure (Except.error fault)
      | .ok _ => pure (Except.error FileSystem.WalkFault.notDirectory)
    else locate ⟨true, true⟩ target
  match place with
  | .error fault =>
    complainOfWalk what fault
    return false
  | .ok place =>
    match ← node? place with
    | some (.directory _) =>
      complain ("cannot overwrite directory ".toList ++ quotedName target
        ++ " with non-directory ".toList ++ quotedName source)
      return false
    | some (.file old _) =>
      setFiles ((← get).files.put place (.file old content))
      return true
    | some _ => return true
    | none =>
      let mode := Permission.without mode (← get).mask
      setFiles ((← get).files.put place (.file mode content))
      return true

/-- Puts a copy of a directory, with all that is below it, at a place. -/
def copyTree (place new : Location) : Work Unit := do
  let files := (← get).files
  let copied := files.entries.filter fun (other, _) => place.isPrefixOf other
  setFiles (copied.foldl (fun files (other, node) =>
    let target := new ++ other.drop place.length
    if node.isDirectory && files.isDirectory target then files else files.put target node) files)

def copyOne (operands : Operands) (source target : Path) : Work Unit := do
  match ← reach source with
  | .error fault => complainOfWalk ("cannot stat ".toList ++ quotedName source) fault
  | .ok (place, node) =>
    let same : Bool :=
      match ← reach target with
      | .ok (other, _) => other = place
      | .error _ => false
    if same then
      complain (quotedName source ++ " and ".toList ++ quotedName target
        ++ " are the same file".toList)
    else
      match node with
      | .directory _ =>
        if operands.has 'r' || operands.has 'R' || operands.has 'a' then
          match ← locateTarget target true with
          | .error fault =>
            complainOfWalk ("cannot create directory ".toList ++ quotedName target) fault
          | .ok new =>
            if place.isPrefixOf new then
              complain ("cannot copy a directory, ".toList ++ quotedName source
                ++ ", into itself, ".toList ++ quotedName target)
            else
              copyTree place new
              tell operands "" source target
        else complain ("-r not specified; omitting directory ".toList ++ quotedName source)
      | .file mode content =>
        if operands.has 'n' && ((← reach target) matches .ok _) then return
        else if ← copyFile source target mode content then tell operands "" source target
      | _ => return

def copy : Operands.Table × (Operands → Work Unit) :=
  (⟨['a', 'f', 'i', 'n', 'p', 'r', 'R', 'u', 'v', 'T', 'P', 'L', 'd'], ['t'],
    [("recursive", 'r'), ("force", 'f'), ("verbose", 'v'), ("archive", 'a'), ("no-clobber", 'n')]⟩,
    fun operands => toTargets operands (operands.has 'T') (copyOne operands))

/-! ## Links and permissions -/

def linkOne (operands : Operands) (source target : Path) : Work Unit := do
  let symbolic := operands.has 's'
  let what := (if symbolic then "failed to create symbolic link " else
    "failed to create hard link ").toList ++ quotedName target
  let node : Except FileSystem.WalkFault Node ←
    if symbolic then pure (Except.ok (.link source))
    else
      match ← locate ⟨false, false⟩ source with
      | .error fault => pure (.error fault)
      | .ok place => pure (((← node? place).map Except.ok).getD (.error .noEntry))
  match node with
  | .error fault => complainOfWalk ("failed to access ".toList ++ quotedName source) fault
  | .ok node =>
    if node.isDirectory then
      complain (shownName source ++ ": hard link not allowed for directory".toList)
    else
      match ← locate ⟨false, true⟩ target with
      | .error fault => complainOfWalk what fault
      | .ok place =>
        let old ← node? place
        if old.isSome && (!operands.has 'f' || old.any Node.isDirectory) then
          complain (what ++ ": File exists".toList)
        else
          setFiles ((← get).files.put place node)
          if operands.has 'v' then
            printLine (quotedName target ++ (if symbolic then " -> " else " => ").toList
              ++ quotedName source)

def link : Operands.Table × (Operands → Work Unit) :=
  (⟨['f', 'i', 'n', 's', 'v', 'T', 'L', 'P'], ['t'], [("symbolic", 's'), ("force", 'f'),
    ("verbose", 'v'), ("no-dereference", 'n'), ("no-target-directory", 'T')]⟩, fun operands =>
    match operands.operands with
    | [only] => linkOne operands only (lastName only)
    | _ => toTargets operands (operands.has 'T') (linkOne operands))

/-- Changes the permissions of a file. -/
def setModeOne (change : Text) (path : Path) : Work Unit := do
  match ← reach path with
  | .error fault => complainOfWalk ("cannot access ".toList ++ quotedName path) fault
  | .ok (place, node) =>
    let old : Mode := match node with
      | .directory mode | .file mode _ | .special mode => mode
      | .link _ => 0
    match Permission.change node.isDirectory (← get).mask change old with
    | some mode => setFiles ((← get).files.put place (node.withMode mode))
    | none => return

/-- Whether an argument takes permissions away, although it begins like an option. -/
def isTaking (argument : Bytes) : Bool :=
  match argument with
  | 0x2D :: b :: _ => "rwxXstugo01234567,+=".toList.contains (Char.ofNat b.toNat)
  | _ => false

/-- Changes permissions; those to take away are no options. -/
def setModes (call : Script.Call) : Performance :=
  let table : Operands.Table := ⟨['c', 'f', 'v', 'R'], [], [("recursive", 'R'), ("quiet", 'f')]⟩
  let taking := call.arguments.tail.find? isTaking
  let plain := match taking with
    | some change => call.arguments.erase change
    | none => call.arguments
  let work (operands : Operands) : Work Unit :=
    match taking.toList ++ operands.operands with
    | [] => complainOfUse "missing operand".toList
    | [change] => complainOfUse ("missing operand after ".toList ++ quotedName change)
    | change :: paths =>
      let change := Utf8.lossy change
      if Permission.isChange change then paths.forM (setModeOne change)
      else complainOfUse ("invalid mode: ".toList ++ '\x27' :: change ++ ['\x27'])
  perform 1 (table, work) { call with arguments := plain }

end CommandShell.Task
