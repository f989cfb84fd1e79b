import CommandShell.Proofs.Reader.Pairing
import CommandShell.Proofs.Session.Interleaving

/-!
A session that gets its lines from a reader on a thread of its own. While a process is running, nobody
reads.
-/

set_option autoImplicit false

namespace CommandShell

variable {ω σ : Type}

namespace Session

/-- Whether the loop has shown its prompt and has no line yet. -/
def Position.AtPrompt : Position ω σ → Prop
  | .asked _ => True
  | .ready _ | .started _ _ _ _ _ | .waiting _ _ _ _ _ | .ended _ => False

/-- A session, and the reader that its loop asks for lines. -/
structure Attended (ω σ : Type) where
  system : System ω σ
  reader : Reader.Exchange

namespace Attended

/-- The steps of a session and its reader. -/
inductive Step (setting : Setting ω σ) : Attended ω σ → Attended ω σ → Prop
  /-- The loop shows its prompt, which is the reader's to show, and begins a call. -/
  | call (before after : System ω σ) (thread : Reader.Thread) (requests : List Text)
      (answers : List Reading) (account : Reader.Account) (step : Session.Step setting before after)
      (asked : after.position.AtPrompt) (before_call : ¬before.position.AtPrompt) :
      Step setting ⟨before, ⟨.away, thread, requests, answers, account⟩⟩
        ⟨after, ⟨.sending setting.prompt, thread, requests, answers, account.call setting.prompt⟩⟩
  /-- The call is over, and the loop goes on with what it has returned. -/
  | hear (before after : System ω σ) (reader : Reader.Exchange)
      (step : Session.Step setting before after) (asked : before.position.AtPrompt)
      (heard : ¬after.position.AtPrompt) (free : reader.caller.inProgress = 0)
      (same : after.history.readings = reader.account.returned) :
      Step setting ⟨before, reader⟩ ⟨after, reader⟩
  /-- The loop or a reporter does something else. -/
  | other (before after : System ω σ) (reader : Reader.Exchange)
      (step : Session.Step setting before after)
      (apart : before.position.AtPrompt ↔ after.position.AtPrompt) :
      Step setting ⟨before, reader⟩ ⟨after, reader⟩
  /-- The call that is in progress goes on, or the thread does. -/
  | read (system : System ω σ) (before after : Reader.Exchange) (step : Reader.Step before after)
      (same : after.account.calls = before.account.calls) :
      Step setting ⟨system, before⟩ ⟨system, after⟩

/-- A session and a reader that are to begin. -/
def outset (items : List (Item ω σ)) (world : ω) (sink : σ) : Attended ω σ :=
  ⟨Session.outset items world sink, Reader.outset⟩

/-- What comes about, in whatever order the loop, the reporters and the reader take their steps. -/
inductive Reachable (setting : Setting ω σ) (first : Attended ω σ) : Attended ω σ → Prop
  | start : Reachable setting first first
  | step (before after : Attended ω σ) (earlier : Reachable setting first before)
      (step : Step setting before after) : Reachable setting first after

end Attended

theorem Position.not_atPrompt_after (items : List (Item ω σ)) (child : Nat)
    (result : Except ShellError Paused) : ¬(Position.after items child result).AtPrompt := by
  rcases result with error | ((_ | code) | ⟨line, name, process⟩) <;> exact id

/-- Something is read only at a prompt, which is then gone. -/
theorem Step.readings_eq {setting : Setting ω σ} {before after : System ω σ}
    (step : Step setting before after)
    (apart : before.position.AtPrompt → after.position.AtPrompt) :
    after.history.readings = before.history.readings := by
  cases step with
  | ask => rw [History.readings_append, History.readings_ofTrace, List.append_nil]
  | hear => exact absurd (apart trivial) (Position.not_atPrompt_after _ _ _)
  | await => exact History.readings_snoc _ _ rfl
  | settle => exact History.readings_snoc _ _ rfl
  | receive =>
    rw [List.append_cons, History.readings_append, History.readings_ofTrace, List.append_nil]
    exact History.readings_snoc _ _ rfl

end Session

namespace Reader

/-- A step that begins no call leaves no more of them in progress. -/
theorem Step.inProgress_le {before after : Exchange} (step : Step before after)
    (same : after.account.calls = before.account.calls) :
    after.caller.inProgress ≤ before.caller.inProgress := by
  cases step with
  | call prompt thread requests answers account => simp [Account.call] at same
  | refuse | receive | close => exact Nat.zero_le _
  | submit | take | yield | answer | release | stop | leave => exact Nat.le_refl _

theorem Step.returned_prefix {before after : Exchange} (step : Step before after) :
    before.account.returned <+: after.account.returned := by
  cases step with
  | refuse | receive | close => exact List.prefix_append _ _
  | call | submit | take | yield | answer | release | stop | leave => exact List.prefix_rfl

end Reader

namespace Session.Attended

/-- What holds of a session and its reader, whatever the order of steps. -/
structure Sound (setting : Setting ω σ) (first attended : Attended ω σ) : Prop where
  system : Session.Reachable setting first.system attended.system
  reader : Reader.Reachable attended.reader
  asking : attended.reader.caller.inProgress ≠ 0 → attended.system.position.AtPrompt
  prompts : ∀ prompt ∈ attended.reader.account.calls, prompt = setting.prompt
  heard : attended.system.history.readings <+: attended.reader.account.returned

theorem Step.sound {setting : Setting ω σ} {first before after : Attended ω σ}
    (step : Step setting before after) (sound : Sound setting first before) :
    Sound setting first after := by
  obtain ⟨system, reader, asking, prompts, heard⟩ := sound
  cases step with
  | call before after thread requests answers account step asked asks =>
    refine ⟨.step _ _ system step, .step _ _ reader (.call _ _ _ _ _), fun _ => asked, ?_, ?_⟩
    · intro prompt member
      rcases List.mem_append.mp member with earlier | now
      · exact prompts prompt earlier
      · exact List.mem_singleton.mp now
    · rw [step.readings_eq fun still => absurd still asks]
      exact heard
  | hear before after exchange step asked gone free same =>
    exact ⟨.step _ _ system step, reader, fun busy => absurd free busy, prompts,
      ⟨[], (List.append_nil _).trans same⟩⟩
  | other before after exchange step apart =>
    refine ⟨.step _ _ system step, reader, fun busy => apart.mp (asking busy), prompts, ?_⟩
    rw [step.readings_eq apart.mp]
    exact heard
  | read loop before after step same =>
    refine ⟨system, .step _ _ reader step, ?_, ?_, heard.trans step.returned_prefix⟩
    · intro busy
      have fewer := step.inProgress_le same
      exact asking fun free => busy (Nat.eq_zero_of_le_zero (free ▸ fewer))
    · rw [same]
      exact prompts

theorem Reachable.sound {setting : Setting ω σ} {first attended : Attended ω σ}
    (reached : Reachable setting first attended) (begun : Sound setting first first) :
    Sound setting first attended := by
  induction reached with
  | start => exact begun
  | step before after earlier step ih => exact step.sound ih

/-- No process is about where the loop waits for a line. -/
theorem not_atPrompt_of_running {script : List Reading} {system : System ω σ}
    (sound : Session.Sound script system) (running : system.history.outstanding ≠ []) :
    ¬system.position.AtPrompt := by
  obtain ⟨position, session, channels, history⟩ := system
  cases position with
  | asked items => exact absurd sound.stands.2.1 running
  | ready | started | waiting | ended => exact id

/-- A session hears what the calls of its reader return, in order, and has called it with its own prompt
each time. As long as a process it has started is running, its reader, unless it has stopped, only listens:
no line is being read, and nothing lies in the channels. -/
theorem listening_of_running (setting : Setting ω σ) (items : List (Item ω σ)) (world : ω) (sink : σ)
    (attended : Attended ω σ) (reached : Reachable setting (outset items world sink) attended) :
    attended.system.history.readings <+: attended.reader.account.returned ∧
      (∀ prompt ∈ attended.reader.account.calls, prompt = setting.prompt) ∧
      (attended.system.history.outstanding ≠ [] → ¬attended.reader.thread.Stopped →
        attended.reader.thread = .listening ∧ attended.reader.requests = [] ∧
          attended.reader.answers = []) := by
  have sound := reached.sound ⟨.start, .start, fun busy => absurd rfl busy, nofun, List.prefix_rfl⟩
  refine ⟨sound.heard, sound.prompts, ?_⟩
  intro running alive
  have away := not_atPrompt_of_running sound.system.sound running
  exact sound.reader.sound.placed.idle alive (by_contra fun busy => away (sound.asking busy))

end Session.Attended

namespace Reader

/-- In every order in which a caller and the thread of a reader take their steps, over any number of
calls, any prompts and any outcomes of the editor, with a thread that may stop wherever it is: a call
returns what the outcome of the editor's call of its own number reads as, which was made with its prompt;
it returns that the reader is closed only where the thread has stopped without handing back an answer to
it. The editor is called with the prompts of the calls in their order, and never ahead of them. What the
editor yields is handed back in order, but for one outcome that the thread has at hand or had when it
stopped; what is handed back has been returned, in order and once, or lies in its channel. No side finds a
channel full that it has something to put into: a call in progress can always go on, and whatever is
done in the meantime brings its end nearer. Between two calls a thread that has not stopped only
listens, and both channels are empty. So it is where the calls are those of a session as long as a program
it has started is running; and the session hears what its calls return. -/
theorem reachable_pairs (exchange : Exchange) (reached : Reachable exchange) :
    let account := exchange.account
    (∀ k reading, account.returned[k]? = some reading →
      (reading ≠ .failed .closed →
        ∃ prompt outcome, account.calls[k]? = some prompt ∧ account.edits[k]? = some prompt ∧
          account.outcomes[k]? = some outcome ∧ Reads outcome reading) ∧
      (reading = .failed .closed → exchange.thread.Stopped ∧ account.sent.length ≤ k)) ∧
    (account.edits <+: account.calls ∧
      account.calls.length = account.returned.length + exchange.caller.inProgress) ∧
    (∃ received refused handed,
      account.returned = received ++ List.replicate refused (.failed .closed) ∧
      account.sent = received ++ exchange.answers ∧
      handed <+: account.outcomes ∧ List.Forall₂ Reads handed account.sent ∧
      account.outcomes.length ≤ account.sent.length + 1 ∧
      (¬exchange.thread.Stopped → refused = 0 ∧
        List.Forall₂ Reads account.outcomes (account.sent ++ exchange.thread.unsent))) ∧
    (∀ prompt, exchange.caller = .sending prompt → exchange.requests.length < capacity) ∧
    (∀ reading, exchange.thread = .answering reading → exchange.answers.length < capacity) ∧
    (exchange.caller.inProgress = 1 →
      (∃ next, Step exchange next ∧ (next.thread.Stopped → exchange.thread.Stopped)) ∧
      ∀ next, Step exchange next → next.ahead < exchange.ahead) ∧
    (¬exchange.thread.Stopped → exchange.caller.inProgress = 0 →
      exchange.thread = .listening ∧ exchange.requests = [] ∧ exchange.answers = []) ∧
    ∀ (ω σ : Type) (setting : Setting ω σ) (items : List (Item ω σ)) (world : ω) (sink : σ)
      (attended : Session.Attended ω σ),
      Session.Attended.Reachable setting (.outset items world sink) attended →
      attended.reader = exchange →
      attended.system.history.readings <+: account.returned ∧
        (∀ prompt ∈ account.calls, prompt = setting.prompt) ∧
        (attended.system.history.outstanding ≠ [] → ¬exchange.thread.Stopped →
          exchange.thread = .listening ∧ exchange.requests = [] ∧ exchange.answers = []) := by
  intro account
  have sound := reached.sound
  obtain ⟨received, refused, kept⟩ := sound.returned
  refine ⟨?_, ⟨sound.prompted.begun, kept.counted⟩, ?_, ?_, ?_, ?_, sound.placed.idle, ?_⟩
  · intro k reading returned
    rcases kept.cases returned with sent | ⟨rfl, stopped, unsent⟩
    · exact ⟨fun _ => sound.outcome_of_sent sent,
        fun closed => absurd closed (sound.answered.ne_closed sent)⟩
    · exact ⟨fun other => absurd rfl other, fun _ => ⟨stopped, unsent⟩⟩
  · obtain ⟨handed, among, same⟩ := List.prefix_map_iff.mp sound.answered.sent
    refine ⟨received, refused, handed, kept.returned, kept.sent, among,
      (forall₂_reads_iff _ _).mpr same.symm, sound.answered.kept, ?_⟩
    intro running
    refine ⟨?_, (forall₂_reads_iff _ _).mpr (sound.answered.alive running).2⟩
    exact Nat.eq_zero_of_not_pos fun some => running (kept.closed some).1
  · intro prompt sending
    rw [sound.placed.requests_of_sending sending]
    exact Nat.zero_lt_one
  · intro reading answering
    rw [sound.placed.answers_of_answering answering]
    exact Nat.zero_lt_one
  · intro busy
    exact ⟨sound.placed.goes_on busy, fun next step => step.ahead_lt busy⟩
  · rintro ω σ setting items world sink attended about rfl
    exact Session.Attended.listening_of_running setting items world sink attended about

/-- Calls that were answered with a line, an interrupt, a failure and the end of the input. -/
def answered : Account :=
  (((Account.empty.seeThrough "$ ".toList (.ok "pwd".toList)).seeThrough "$ ".toList
    (.error .interrupted)).seeThrough "$ ".toList (.error (.io "no tty".toList))).seeThrough "$ ".toList
      (.error .endOfInput)

/-- After these calls the thread has stopped with the prompt of another in its channel. -/
def abandoned : Exchange :=
  ⟨.away, .gone, [], [], (answered.call "$ ".toList).give (.failed .closed)⟩

theorem reachable_pairs_abandoned :
    Reachable abandoned ∧
      (∃ outcome, abandoned.account.outcomes[1]? = some outcome ∧ Reads outcome .interrupted) ∧
      (∃ outcome, abandoned.account.outcomes[2]? = some outcome ∧
        Reads outcome (.failed (.readline "no tty".toList))) ∧
      (∃ outcome, abandoned.account.outcomes[3]? = some outcome ∧ Reads outcome .endOfInput) ∧
      abandoned.thread.Stopped ∧ abandoned.account.sent.length ≤ 4 := by
  have called : Reachable ⟨.away, .listening, [], [], answered⟩ :=
    (((Reachable.start.seeThrough _ _).seeThrough _ _).seeThrough _ _).seeThrough _ _
  have again := Reachable.step _ _ called (.call "$ ".toList _ _ _ _)
  have waiting := Reachable.step _ _ again (.submit _ _ _ _ _ id Nat.zero_lt_one)
  have stopped := Reachable.step _ _ waiting (.stop _ _ _ _ _ id)
  have left := Reachable.step _ _ stopped (.leave _ _ _ _)
  have reached : Reachable abandoned := Reachable.step _ _ left (.close _ _)
  obtain ⟨paired, -⟩ := reachable_pairs abandoned reached
  have reads (k : Nat) (reading : Reading) (returned : abandoned.account.returned[k]? = some reading)
      (other : reading ≠ .failed .closed) :
      ∃ outcome, abandoned.account.outcomes[k]? = some outcome ∧ Reads outcome reading := by
    obtain ⟨prompt, outcome, -, -, yielded, same⟩ := (paired k reading returned).1 other
    exact ⟨outcome, yielded, same⟩
  exact ⟨reached, reads 1 _ rfl (by simp), reads 2 _ rfl (by simp), reads 3 _ rfl (by simp),
    (paired 4 (.failed .closed) rfl).2 rfl⟩

end Reader

end CommandShell
