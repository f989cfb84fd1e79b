import CommandShell.Session.Run

/-!
The line editor on a thread of its own. It reads a line when it is handed a prompt, and hands the
outcome back; one channel leads there and one back, with one place each.
-/

set_option autoImplicit false

namespace CommandShell

/-- What an outcome of the line editor reads as. -/
def Reading.ofEditor : Except EditorError Text → Reading
  | .ok text => .line text
  | .error .interrupted => .interrupted
  | .error .endOfInput => .endOfInput
  | .error error => .failed (.ofEditor error)

/-- The editor itself never says that it is closed. -/
theorem Reading.ofEditor_ne_closed (outcome : Except EditorError Text) :
    Reading.ofEditor outcome ≠ .failed .closed := by
  rcases outcome with (_ | _ | reason) | text <;> simp [ofEditor, InputError.ofEditor]

namespace Reader

/-- How many messages a channel holds. -/
def capacity : Nat := 1

/-- Where the side that asks for lines stands. A call is always seen through. -/
inductive Caller
  /-- It does something else, such as waiting for a process. -/
  | away
  /-- A call has a prompt to hand over. -/
  | sending (prompt : Text)
  /-- A call waits for its answer. -/
  | awaiting
  /-- There will be no more calls. -/
  | gone

/-- Where the thread of the editor stands. -/
inductive Thread
  /-- It waits for a prompt. -/
  | listening
  /-- The editor reads a line. -/
  | editing (prompt : Text)
  /-- It has an answer to hand back. -/
  | answering (reading : Reading)
  /-- It has stopped, and takes no more prompts. -/
  | leaving
  /-- It has stopped, and there will be no more answers. -/
  | gone

/-- What has happened, each thing in order. -/
structure Account where
  /-- The prompts of the calls. -/
  calls : List Text
  /-- The prompts the editor has been called with. -/
  edits : List Text
  /-- How the editor's calls have ended. -/
  outcomes : List (Except EditorError Text)
  /-- The answers that have been handed back. -/
  sent : List Reading
  /-- What the calls have returned. -/
  returned : List Reading

/-- Both sides, what lies in the channels between them, and what has happened. -/
structure Exchange where
  caller : Caller
  thread : Thread
  requests : List Text
  answers : List Reading
  account : Account

namespace Caller

/-- How many calls are in progress. -/
def inProgress : Caller → Nat
  | .sending _ | .awaiting => 1
  | .away | .gone => 0

/-- How many calls wait for an answer. -/
def waiting : Caller → Nat
  | .awaiting => 1
  | .away | .sending _ | .gone => 0

/-- The prompt that is still to be handed over. -/
def unsent : Caller → List Text
  | .sending prompt => [prompt]
  | .away | .awaiting | .gone => []

end Caller

namespace Thread

def Stopped : Thread → Prop
  | .leaving | .gone => True
  | .listening | .editing _ | .answering _ => False

/-- How many calls of the editor are in progress. -/
def inProgress : Thread → Nat
  | .editing _ => 1
  | .listening | .answering _ | .leaving | .gone => 0

/-- The answer that is still to be handed back. -/
def unsent : Thread → List Reading
  | .answering reading => [reading]
  | .listening | .editing _ | .leaving | .gone => []

end Thread

namespace Account

def empty : Account := ⟨[], [], [], [], []⟩

def call (account : Account) (prompt : Text) : Account :=
  { account with calls := account.calls ++ [prompt] }

def edit (account : Account) (prompt : Text) : Account :=
  { account with edits := account.edits ++ [prompt] }

def yield (account : Account) (outcome : Except EditorError Text) : Account :=
  { account with outcomes := account.outcomes ++ [outcome] }

def send (account : Account) (reading : Reading) : Account :=
  { account with sent := account.sent ++ [reading] }

def give (account : Account) (reading : Reading) : Account :=
  { account with returned := account.returned ++ [reading] }

end Account

/-- The steps of the caller, and those of the thread. -/
inductive Step : Exchange → Exchange → Prop
  /-- A line is asked for. -/
  | call (prompt : Text) (thread : Thread) (requests : List Text) (answers : List Reading)
      (account : Account) :
      Step ⟨.away, thread, requests, answers, account⟩
        ⟨.sending prompt, thread, requests, answers, account.call prompt⟩
  /-- The prompt is put into its channel, where there is room. -/
  | submit (prompt : Text) (thread : Thread) (requests : List Text) (answers : List Reading)
      (account : Account) (alive : ¬thread.Stopped) (room : requests.length < capacity) :
      Step ⟨.sending prompt, thread, requests, answers, account⟩
        ⟨.awaiting, thread, requests ++ [prompt], answers, account⟩
  /-- Nobody takes prompts any more. -/
  | refuse (prompt : Text) (thread : Thread) (requests : List Text) (answers : List Reading)
      (account : Account) (stopped : thread.Stopped) :
      Step ⟨.sending prompt, thread, requests, answers, account⟩
        ⟨.away, thread, requests, answers, account.give (.failed .closed)⟩
  /-- The thread takes a prompt out of its channel and calls the editor. -/
  | take (caller : Caller) (prompt : Text) (requests : List Text) (answers : List Reading)
      (account : Account) :
      Step ⟨caller, .listening, prompt :: requests, answers, account⟩
        ⟨caller, .editing prompt, requests, answers, account.edit prompt⟩
  /-- The editor is done, however that went. -/
  | yield (caller : Caller) (prompt : Text) (outcome : Except EditorError Text)
      (requests : List Text) (answers : List Reading) (account : Account) :
      Step ⟨caller, .editing prompt, requests, answers, account⟩
        ⟨caller, .answering (.ofEditor outcome), requests, answers, account.yield outcome⟩
  /-- The answer is put into its channel, where there is room. -/
  | answer (caller : Caller) (reading : Reading) (requests : List Text) (answers : List Reading)
      (account : Account) (heard : caller ≠ .gone) (room : answers.length < capacity) :
      Step ⟨caller, .answering reading, requests, answers, account⟩
        ⟨caller, .listening, requests, answers ++ [reading], account.send reading⟩
  /-- A call takes an answer out of its channel and returns it. -/
  | receive (thread : Thread) (reading : Reading) (requests : List Text) (answers : List Reading)
      (account : Account) :
      Step ⟨.awaiting, thread, requests, reading :: answers, account⟩
        ⟨.away, thread, requests, answers, account.give reading⟩
  /-- There is no answer, nor will there be one. -/
  | close (requests : List Text) (account : Account) :
      Step ⟨.awaiting, .gone, requests, [], account⟩
        ⟨.away, .gone, requests, [], account.give (.failed .closed)⟩
  /-- The caller lets go of both channels. -/
  | release (thread : Thread) (requests : List Text) (answers : List Reading) (account : Account) :
      Step ⟨.away, thread, requests, answers, account⟩ ⟨.gone, thread, requests, [], account⟩
  /-- The thread stops, whatever it is at: it fails, or the caller is gone. The prompt that lies in the
  channel is lost. -/
  | stop (caller : Caller) (thread : Thread) (requests : List Text) (answers : List Reading)
      (account : Account) (alive : ¬thread.Stopped) :
      Step ⟨caller, thread, requests, answers, account⟩ ⟨caller, .leaving, [], answers, account⟩
  /-- The thread lets go of the answers' channel too. -/
  | leave (caller : Caller) (requests : List Text) (answers : List Reading) (account : Account) :
      Step ⟨caller, .leaving, requests, answers, account⟩ ⟨caller, .gone, requests, answers, account⟩

/-- The thread waits for a first prompt. -/
def outset : Exchange := ⟨.away, .listening, [], [], .empty⟩

/-- What comes about, in whatever order the two sides take their steps. -/
inductive Reachable : Exchange → Prop
  | start : Reachable outset
  | step (before after : Exchange) (earlier : Reachable before) (step : Step before after) :
    Reachable after

end Reader

end CommandShell
