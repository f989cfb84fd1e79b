import CommandShell.Machine.Task

/-!
The programs that show files, and the names of files.
-/

set_option autoImplicit false

namespace CommandShell.Task

/-- The names in the order of their bytes. -/
def sorted (names : List Bytes) : List Bytes := names.mergeSort fun a b => !(b < a)

/-- What is put behind a name to show what it is. -/
def mark (operands : Operands) : Node → Text
  | .directory _ => if operands.has 'F' || operands.has 'p' then ['/'] else []
  | .link _ => if operands.has 'F' then ['@'] else []
  | .special _ => if operands.has 'F' then ['|'] else []
  | .file mode _ => if operands.has 'F' && mode.executable then ['*'] else []

/-- Prints the names in a directory. -/
def listDirectory (operands : Operands) (place : Location) : Work Unit := do
  let files := (← get).files
  let own := if operands.has 'a' then [FileSystem.here, FileSystem.above] else []
  let names := (files.children place).filter fun name =>
    operands.has 'a' || operands.has 'A' || name.head? ≠ some 0x2E
  for name in sorted (own ++ names) do
    let node :=
      if own.contains name then Node.directory 0 else (files.node? (place ++ [name])).getD (.directory 0)
    print name
    printLine (mark operands node)

/-- A path that is to be listed, and what it leads to. A link to a directory counts as that. -/
def listed (operands : Operands) (path : Path) : Work (Option (Path × Location × Node)) := do
  let followed ← reach path
  match followed with
  | .ok (place, node) =>
    if node.isDirectory && !operands.has 'd' then return some (path, place, node)
  | .error _ => pure ()
  match ← locate ⟨false, false⟩ path with
  | .error fault =>
    complainOfWalk ("cannot access ".toList ++ quotedName path) fault
    failWith 2
    return none
  | .ok place => return (← node? place).map (path, place, ·)

/-- Lists files, and then what is in directories. -/
def list : Operands.Table × (Operands → Work Unit) :=
  (⟨['a', 'A', '1', 'd', 'F', 'p'], [], [("all", 'a'), ("almost-all", 'A'), ("directory", 'd')]⟩,
    fun operands => do
    let paths := if operands.operands.isEmpty then [FileSystem.here] else sorted operands.operands
    let found := (← paths.mapM (listed operands)).filterMap id
    let isOpen (entry : Path × Location × Node) : Bool :=
      entry.2.2.isDirectory && !operands.has 'd'
    let (directories, others) := found.partition isOpen
    for (path, _, node) in others do
      print path
      printLine (mark operands node)
    let mut first := others.isEmpty
    for (path, place, _) in directories do
      if !first then printLine []
      if paths.length > 1 then
        print path
        printLine [':']
      first := false
      listDirectory operands place)

/-- Prints the last names of paths, without an ending. -/
def baseName : Operands.Table × (Operands → Work Unit) :=
  (⟨['a', 'z'], ['s'], [("multiple", 'a'), ("suffix", 's')]⟩, fun operands => do
    let cut (ending name : Bytes) : Bytes :=
      if ending.length < name.length && ending.reverse.isPrefixOf name.reverse then
        name.take (name.length - ending.length)
      else name
    let showName (ending path : Bytes) : Work Unit := do
      print (cut ending (lastName path))
      printLine []
    let many := operands.has 'a' || operands.has 's'
    match operands.operands with
    | [] => complainOfUse "missing operand".toList
    | [path] => showName ((operands.value? 's').getD []) path
    | path :: ending :: rest =>
      if many then (path :: ending :: rest).forM (showName ((operands.value? 's').getD []))
      else
        match rest with
        | [] => showName ending path
        | extra :: _ => complainOfUse ("extra operand ".toList ++ quotedName extra))

/-- Prints paths without their last names. -/
def directoryNames : Operands.Table × (Operands → Work Unit) :=
  (⟨['z'], [], []⟩, fun operands => do
    if operands.operands.isEmpty then complainOfUse "missing operand".toList
    for path in operands.operands do
      print (directoryName path)
      printLine [])

/-- Prints the targets of links. -/
def readLinks : Operands.Table × (Operands → Work Unit) :=
  (⟨['n', 'q', 's', 'v'], [], []⟩, fun operands => do
    if operands.operands.isEmpty then complainOfUse "missing operand".toList
    for path in operands.operands do
      let node ← match ← locate ⟨false, false⟩ path with
        | .ok place => node? place
        | .error _ => pure none
      match node with
      | some (.link target) =>
        print target
        if !operands.has 'n' then printLine []
      | _ => failWith 1)

end CommandShell.Task
