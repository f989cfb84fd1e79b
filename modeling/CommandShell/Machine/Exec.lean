import CommandShell.Machine.Native
import CommandShell.Session.Host

/-!
Starting programs on a machine.
-/

set_option autoImplicit false

namespace CommandShell

namespace Machine

/-- A program that is given arguments, and no input. -/
def call (machine : Machine) (arguments : List Bytes) : Script.Call :=
  { files := machine.files
    queues := [0, 1, 2].map (·, [])
    opened := []
    choices := []
    arguments := arguments
    environment := machine.environment
    working := machine.working
    mask := 0o022
    channels := [(0, .source 0), (1, .sink 1), (2, .sink 2)] }

/-- How deep programs may start programs. -/
def depthLimit : Nat := 10000

/-- Starts a program, and tells what it will have done. -/
def launch (machine : Machine) (request : LaunchRequest) : Except LaunchError Performance :=
  let arguments := (request.name :: request.arguments).map Utf8.encode
  let refuse (reason : Text) : Except LaunchError Performance :=
    .error (.spawn request.program.display reason)
  if request.program.contains 0 || arguments.any (·.contains 0) then
    refuse "nul byte found in provided data".toList
  else
    match machine.find request.program arguments with
    | .ok (native, arguments) => .ok (native.perform depthLimit (machine.call arguments))
    | .error .noEntry => .error (.notFound request.name)
    | .error fault => refuse fault.message

/-- The number of the first process. -/
def firstId : Nat := 2

/-- Starts programs on a machine; each is waited for by its status, and leaves its files. -/
def host : Host Machine where
  look := surroundings
  launch attempts machine request :=
    match machine.launch request with
    | .error error => ⟨.error error, .nothing, machine⟩
    | .ok performance =>
      let report : Report := .reported (.ok (Termination.ofStatus performance.status))
      ⟨.ok ⟨some (firstId + attempts), report⟩, ⟨performance.queue 1, performance.queue 2⟩,
        { machine with files := performance.files }⟩

end Machine

end CommandShell
