import CommandShell.Proofs.Reader.Exchange
import Mathlib.Data.List.Forall2

/-!
Each call gets the outcome of the editor's call that was made for it, whatever the order of steps, and
nothing is read that was not asked for.
-/

set_option autoImplicit false

namespace CommandShell.Reader

/-- What the editor has come to, and what that reads as. It has a sign for the end of the input and one for
an interrupt; whatever else it says is that nothing could be read. -/
inductive Reads : Except EditorError Text → Reading → Prop
  | line (text : Text) : Reads (.ok text) (.line text)
  | endOfInput : Reads (.error .endOfInput) .endOfInput
  | interrupted : Reads (.error .interrupted) .interrupted
  | failed (reason : Text) : Reads (.error (.io reason)) (.failed (.readline reason))

theorem reads_iff (outcome : Except EditorError Text) (reading : Reading) :
    Reads outcome reading ↔ .ofEditor outcome = reading := by
  constructor
  · rintro (text | _ | _ | reason) <;> rfl
  · rintro rfl
    rcases outcome with (_ | _ | reason) | text
    · exact .endOfInput
    · exact .interrupted
    · exact .failed reason
    · exact .line text

theorem forall₂_reads_iff (outcomes : List (Except EditorError Text)) (readings : List Reading) :
    List.Forall₂ Reads outcomes readings ↔ outcomes.map .ofEditor = readings := by
  have same : Reads = fun outcome reading => Reading.ofEditor outcome = reading := by
    funext outcome reading
    exact propext (reads_iff outcome reading)
  rw [same, ← List.forall₂_map_left_iff, List.forall₂_eq_eq_eq]

/-- A call that waits is in one place: its prompt lies in the channel, the thread is at it, or its answer
lies in the channel. Where the thread has stopped there may be nothing left of it. -/
structure Placed (exchange : Exchange) : Prop where
  alive : ¬exchange.thread.Stopped →
    exchange.caller.waiting = exchange.requests.length + exchange.thread.inProgress +
      exchange.thread.unsent.length + exchange.answers.length
  stopped : exchange.thread.Stopped →
    exchange.requests = [] ∧ exchange.answers.length ≤ exchange.caller.waiting

/-- The editor is called with the prompts of the calls, one after the other. -/
structure Prompted (exchange : Exchange) : Prop where
  alive : ¬exchange.thread.Stopped →
    exchange.account.calls =
      exchange.account.edits ++ exchange.requests ++ exchange.caller.unsent
  begun : exchange.account.edits <+: exchange.account.calls

/-- The editor's outcomes are handed back, one after the other. Only a thread that stops may keep one. -/
structure Answered (exchange : Exchange) : Prop where
  edited : exchange.account.outcomes.length ≤ exchange.account.edits.length
  alive : ¬exchange.thread.Stopped →
    exchange.account.edits.length =
        exchange.account.outcomes.length + exchange.thread.inProgress ∧
      exchange.account.outcomes.map .ofEditor = exchange.account.sent ++ exchange.thread.unsent
  sent : exchange.account.sent <+: exchange.account.outcomes.map .ofEditor
  kept : exchange.account.outcomes.length ≤ exchange.account.sent.length + 1

/-- The calls return what is handed back, one after the other, and once the thread has stopped and no
answer is left, that the reader is closed. -/
structure Returned (exchange : Exchange) (received : List Reading) (refused : Nat) : Prop where
  returned : exchange.account.returned = received ++ List.replicate refused (.failed .closed)
  sent : exchange.account.sent = received ++ exchange.answers
  closed : 0 < refused → exchange.thread.Stopped ∧ exchange.answers = []
  counted : exchange.account.calls.length =
    exchange.account.returned.length + exchange.caller.inProgress

/-- What holds of both sides and of what has happened, whatever the order of steps. -/
structure Sound (exchange : Exchange) : Prop where
  placed : Placed exchange
  prompted : Prompted exchange
  answered : Answered exchange
  returned : ∃ received refused, Returned exchange received refused

section Steps

variable {before after : Exchange}

theorem Step.keeps_placed (step : Step before after) (placed : Placed before) : Placed after := by
  obtain ⟨alive, stopped⟩ := placed
  cases step with
  | call | refuse => exact ⟨alive, stopped⟩
  | submit prompt thread requests answers account running room =>
    refine ⟨?_, fun halted => absurd halted running⟩
    intro _
    have none_waits := alive running
    simp only [Caller.waiting, List.length_append, List.length_singleton] at none_waits ⊢
    omega
  | take | yield | answer =>
    -- The call moves on from one place to the next.
    refine ⟨?_, False.elim⟩
    intro running
    have waits := alive running
    simp only [Thread.inProgress, Thread.unsent, List.length_append, List.length_cons,
      List.length_nil] at waits ⊢
    omega
  | receive thread reading requests answers account =>
    refine ⟨?_, ?_⟩
    · intro running
      have waits := alive running
      simp only [Caller.waiting, List.length_cons] at waits ⊢
      omega
    · intro halted
      obtain ⟨free, waits⟩ := stopped halted
      simp only [Caller.waiting, List.length_cons] at waits ⊢
      exact ⟨free, by omega⟩
  | close requests account =>
    exact ⟨fun running => absurd trivial running, fun halted => ⟨(stopped halted).1, Nat.zero_le _⟩⟩
  | release thread requests answers account =>
    refine ⟨?_, fun halted => ⟨(stopped halted).1, Nat.zero_le _⟩⟩
    intro running
    have waits := alive running
    simp only [Caller.waiting, List.length_nil] at waits ⊢
    omega
  | stop caller thread requests answers account running =>
    refine ⟨fun still => absurd trivial still, fun _ => ⟨rfl, ?_⟩⟩
    have waits := alive running
    simp only at waits ⊢
    omega
  | leave caller requests answers account =>
    exact ⟨fun running => absurd trivial running, fun halted => stopped halted⟩

theorem Step.keeps_prompted (step : Step before after) (prompted : Prompted before) :
    Prompted after := by
  obtain ⟨alive, begun⟩ := prompted
  cases step with
  | call prompt thread requests answers account =>
    refine ⟨?_, begun.trans (List.prefix_append _ _)⟩
    intro running
    have whole : account.calls = account.edits ++ requests ++ [] := alive running
    simp [Account.call, Caller.unsent, whole]
  | submit prompt thread requests answers account running room =>
    refine ⟨?_, begun⟩
    intro _
    simpa [Caller.unsent] using alive running
  | refuse prompt thread requests answers account halted =>
    exact ⟨fun running => absurd halted running, begun⟩
  | take caller prompt requests answers account =>
    have whole := alive id
    simp only [List.append_assoc, List.cons_append] at whole
    refine ⟨?_, ?_⟩
    · intro _
      simpa [Account.edit] using whole
    · refine ⟨requests ++ caller.unsent, ?_⟩
      simpa [Account.edit] using whole.symm
  | stop | leave => exact ⟨fun still => absurd trivial still, begun⟩
  | yield | answer | receive | close | release => exact ⟨alive, begun⟩

theorem Step.keeps_answered (step : Step before after) (answered : Answered before) :
    Answered after := by
  obtain ⟨edited, alive, sent, kept⟩ := answered
  cases step with
  | take caller prompt requests answers account =>
    obtain ⟨lengths, handed⟩ := alive id
    refine ⟨?_, fun _ => ⟨?_, handed⟩, sent, kept⟩
    · simp only [Account.edit, List.length_append]
      exact Nat.le_add_right_of_le edited
    · simpa [Account.edit, Thread.inProgress] using lengths
  | yield caller prompt outcome requests answers account =>
    obtain ⟨lengths, handed⟩ := alive id
    rw [Thread.unsent, List.append_nil] at handed
    have equal : account.outcomes.length = account.sent.length := by
      rw [← handed, List.length_map]
    refine ⟨?_, fun _ => ⟨?_, ?_⟩, ?_, ?_⟩
    · simp only [Account.yield, List.length_append, List.length_singleton]
      exact Nat.le_of_eq lengths.symm
    · simpa [Account.yield, Thread.inProgress] using lengths
    · simp [Account.yield, Thread.unsent, handed]
    · simp only [Account.yield, List.map_append]
      exact sent.trans (List.prefix_append _ _)
    · simp only [Account.yield, List.length_append, List.length_singleton]
      omega
  | answer caller reading requests answers account heard room =>
    obtain ⟨lengths, handed⟩ := alive id
    refine ⟨edited, fun _ => ⟨lengths, ?_⟩, ?_, ?_⟩
    · simpa [Account.send, Thread.unsent] using handed
    · exact ⟨[], by simpa [Account.send, Thread.unsent] using handed.symm⟩
    · simp only [Account.send, List.length_append]
      exact Nat.le_trans kept (Nat.le_add_right _ _)
  | stop | leave => exact ⟨edited, fun still => absurd trivial still, sent, kept⟩
  | call | submit | refuse | receive | close | release => exact ⟨edited, alive, sent, kept⟩

/-- A caller that waits for no answer has none in its channel. -/
theorem Placed.answers_eq_nil {exchange : Exchange} (placed : Placed exchange)
    (free : exchange.caller.waiting = 0) : exchange.answers = [] := by
  apply List.eq_nil_of_length_eq_zero
  by_cases halted : exchange.thread.Stopped
  · have few := (placed.stopped halted).2
    omega
  · have waits := placed.alive halted
    omega

theorem Step.keeps_returned {received : List Reading} {refused : Nat} (step : Step before after)
    (placed : Placed before) (account : Returned before received refused) :
    ∃ received refused, Returned after received refused := by
  obtain ⟨returned, sent, closed, counted⟩ := account
  cases step with
  | call prompt thread requests answers account =>
    refine ⟨received, refused, returned, sent, closed, ?_⟩
    simpa [Account.call, Caller.inProgress] using counted
  | refuse prompt thread requests answers account halted =>
    refine ⟨received, refused + 1, ?_, sent, fun _ => ⟨halted, placed.answers_eq_nil rfl⟩, ?_⟩
    · simp only [Account.give, List.replicate_succ']
      rw [returned, List.append_assoc]
    · simpa [Account.give, Caller.inProgress] using counted
  | answer caller reading requests answers account heard room =>
    -- A thread that answers has not stopped, so no call has been refused.
    have none_refused : refused = 0 := Nat.eq_zero_of_not_pos fun some => (closed some).1
    refine ⟨received, refused, returned, ?_, fun some => ?_, counted⟩
    · simp only [Account.send]
      rw [sent, List.append_assoc]
    · omega
  | receive thread reading requests answers account =>
    have none_refused : refused = 0 :=
      Nat.eq_zero_of_not_pos fun some => List.cons_ne_nil _ _ (closed some).2
    subst none_refused
    refine ⟨received ++ [reading], 0, ?_, ?_, fun some => absurd some (Nat.lt_irrefl 0), ?_⟩
    · simp only [Account.give]
      rw [returned]
      simp
    · simp only [Account.give]
      rw [sent]
      simp
    · simpa [Account.give, Caller.inProgress] using counted
  | close requests account =>
    refine ⟨received, refused + 1, ?_, sent, fun _ => ⟨trivial, rfl⟩, ?_⟩
    · simp only [Account.give, List.replicate_succ']
      rw [returned, List.append_assoc]
    · simpa [Account.give, Caller.inProgress] using counted
  | release thread requests answers account =>
    obtain rfl : answers = [] := placed.answers_eq_nil rfl
    exact ⟨received, refused, returned, sent, closed, counted⟩
  | stop caller thread requests answers account running =>
    exact ⟨received, refused, returned, sent, fun some => absurd (closed some).1 running, counted⟩
  | leave caller requests answers account =>
    exact ⟨received, refused, returned, sent, fun some => ⟨trivial, (closed some).2⟩, counted⟩
  | submit | take | yield => exact ⟨received, refused, returned, sent, closed, counted⟩

theorem Step.keeps_sound (step : Step before after) (sound : Sound before) : Sound after := by
  obtain ⟨received, refused, returned⟩ := sound.returned
  exact ⟨step.keeps_placed sound.placed, step.keeps_prompted sound.prompted,
    step.keeps_answered sound.answered, step.keeps_returned sound.placed returned⟩

end Steps

theorem outset_sound : Sound outset :=
  ⟨⟨fun _ => rfl, False.elim⟩, ⟨fun _ => rfl, List.prefix_rfl⟩,
    ⟨Nat.le_refl _, fun _ => ⟨rfl, rfl⟩, List.prefix_rfl, Nat.zero_le _⟩,
    [], 0, rfl, rfl, fun some => absurd some (Nat.lt_irrefl 0), rfl⟩

theorem Reachable.sound {exchange : Exchange} (reached : Reachable exchange) : Sound exchange := by
  induction reached with
  | start => exact outset_sound
  | step before after earlier step ih => exact step.keeps_sound ih

section Exchanges

variable {exchange : Exchange}

/-- What the thread hands back is never that the reader is closed. -/
theorem Answered.ne_closed (answered : Answered exchange) {k : Nat} {reading : Reading}
    (sent : exchange.account.sent[k]? = some reading) : reading ≠ .failed .closed := by
  have member := answered.sent.subset (List.mem_of_getElem? sent)
  obtain ⟨outcome, -, rfl⟩ := List.mem_map.mp member
  exact Reading.ofEditor_ne_closed outcome

/-- A call returns the answer of its own number, or that the reader is closed when there is none. -/
theorem Returned.cases {received : List Reading} {refused k : Nat} {reading : Reading}
    (account : Returned exchange received refused)
    (returned : exchange.account.returned[k]? = some reading) :
    exchange.account.sent[k]? = some reading ∨
      reading = .failed .closed ∧ exchange.thread.Stopped ∧ exchange.account.sent.length ≤ k := by
  rw [account.returned] at returned
  by_cases within : k < received.length
  · rw [List.getElem?_append_left within] at returned
    left
    rw [account.sent, List.getElem?_append_left within]
    exact returned
  · rw [List.getElem?_append_right (Nat.le_of_not_lt within)] at returned
    obtain ⟨bound, same⟩ := List.getElem?_eq_some_iff.mp returned
    rw [List.length_replicate] at bound
    rw [List.getElem_replicate] at same
    obtain ⟨stopped, none_left⟩ := account.closed (Nat.zero_lt_of_lt bound)
    refine .inr ⟨same.symm, stopped, ?_⟩
    rw [account.sent, none_left, List.append_nil]
    exact Nat.le_of_not_lt within

/-- An answer is the outcome of the editor's call of its number, which was made with the prompt of the
call of that number. -/
theorem Sound.outcome_of_sent (sound : Sound exchange) {k : Nat} {reading : Reading}
    (sent : exchange.account.sent[k]? = some reading) :
    ∃ prompt outcome, exchange.account.calls[k]? = some prompt ∧
      exchange.account.edits[k]? = some prompt ∧
      exchange.account.outcomes[k]? = some outcome ∧ Reads outcome reading := by
  obtain ⟨bound, rfl⟩ := List.getElem?_eq_some_iff.mp sent
  have mapped := List.prefix_iff_getElem?.mp sound.answered.sent k bound
  rw [List.getElem?_map] at mapped
  obtain ⟨outcome, yielded, same⟩ := Option.map_eq_some_iff.mp mapped
  obtain ⟨ended, -⟩ := List.getElem?_eq_some_iff.mp yielded
  have edited : k < exchange.account.edits.length :=
    Nat.lt_of_lt_of_le ended sound.answered.edited
  exact ⟨_, outcome, List.prefix_iff_getElem?.mp sound.prompted.begun k edited,
    List.getElem?_eq_getElem edited, yielded, (reads_iff outcome _).mpr same⟩

/-- A call that has its prompt still to hand over finds the channel empty. -/
theorem Placed.requests_of_sending (placed : Placed exchange) {prompt : Text}
    (sending : exchange.caller = .sending prompt) : exchange.requests = [] := by
  by_cases stopped : exchange.thread.Stopped
  · exact (placed.stopped stopped).1
  · have waits := placed.alive stopped
    rw [sending] at waits
    simp only [Caller.waiting] at waits
    exact List.eq_nil_of_length_eq_zero (by omega)

/-- A thread that has an answer to hand back finds the channel empty. -/
theorem Placed.answers_of_answering (placed : Placed exchange) {reading : Reading}
    (answering : exchange.thread = .answering reading) : exchange.answers = [] := by
  have running : ¬exchange.thread.Stopped := by
    rw [answering]
    exact id
  have waits := placed.alive running
  have most : exchange.caller.waiting ≤ 1 := by cases exchange.caller <;> simp [Caller.waiting]
  rw [answering] at waits
  simp only [Thread.unsent, List.length_singleton] at waits
  exact List.eq_nil_of_length_eq_zero (by omega)

/-- Between two calls the thread does nothing but listen. -/
theorem Placed.idle (placed : Placed exchange) (running : ¬exchange.thread.Stopped)
    (free : exchange.caller.inProgress = 0) :
    exchange.thread = .listening ∧ exchange.requests = [] ∧ exchange.answers = [] := by
  have none_waits : exchange.caller.waiting = 0 := by
    cases place : exchange.caller with
    | away | gone | sending => rfl
    | awaiting =>
      rw [place] at free
      cases free
  have waits := placed.alive running
  rw [none_waits] at waits
  refine ⟨?_, List.eq_nil_of_length_eq_zero (by omega), List.eq_nil_of_length_eq_zero (by omega)⟩
  cases place : exchange.thread with
  | listening => rfl
  | editing prompt =>
    rw [place] at waits
    simp only [Thread.inProgress] at waits
    omega
  | answering reading =>
    rw [place] at waits
    simp only [Thread.unsent, List.length_singleton] at waits
    omega
  | leaving | gone =>
    rw [place] at running
    exact absurd trivial running

/-- How many steps a call in progress takes at most, until it returns. -/
def Caller.ahead : Caller → Nat
  | .sending _ => 6
  | .awaiting => 1
  | .away | .gone => 0

def Thread.ahead : Thread → Nat
  | .listening => 2
  | .editing _ => 5
  | .answering _ => 4
  | .leaving => 1
  | .gone => 0

def Exchange.ahead (exchange : Exchange) : Nat :=
  exchange.caller.ahead + 4 * exchange.requests.length + exchange.thread.ahead +
    exchange.answers.length

/-- Whatever is done while a call is in progress brings its end nearer. -/
theorem Step.ahead_lt {before after : Exchange} (step : Step before after)
    (busy : before.caller.inProgress = 1) : after.ahead < before.ahead := by
  cases step with
  | call | release => cases busy
  | stop caller thread requests answers account running =>
    cases thread with
    | leaving | gone => exact absurd trivial running
    | listening | editing | answering =>
      simp only [Exchange.ahead, Thread.ahead, List.length_nil]
      omega
  | submit | refuse | take | yield | answer | receive | close | leave =>
    simp only [Exchange.ahead, Caller.ahead, Thread.ahead, List.length_append, List.length_cons,
      List.length_nil]
    omega

/-- A call in progress can go on, without the thread stopping for it. -/
theorem Placed.goes_on (placed : Placed exchange) (busy : exchange.caller.inProgress = 1) :
    ∃ next, Step exchange next ∧ (next.thread.Stopped → exchange.thread.Stopped) := by
  have few_requests (prompt : Text) := @Placed.requests_of_sending exchange placed prompt
  have few_answers (reading : Reading) := @Placed.answers_of_answering exchange placed reading
  obtain ⟨alive, -⟩ := placed
  obtain ⟨caller, thread, requests, answers, account⟩ := exchange
  cases thread with
  | editing prompt => exact ⟨_, .yield _ _ (.error .interrupted) _ _ _, id⟩
  | answering reading =>
    obtain rfl : answers = [] := few_answers reading rfl
    have heard : caller ≠ .gone := by
      rintro rfl
      cases busy
    exact ⟨_, .answer _ _ _ _ _ heard Nat.zero_lt_one, id⟩
  | leaving => exact ⟨_, .leave _ _ _ _, id⟩
  | gone =>
    cases caller with
    | away | gone => cases busy
    | sending prompt => exact ⟨_, .refuse _ _ _ _ _ trivial, id⟩
    | awaiting =>
      cases answers with
      | nil => exact ⟨_, .close _ _, id⟩
      | cons reading others => exact ⟨_, .receive _ _ _ _ _, id⟩
  | listening =>
    cases caller with
    | away | gone => cases busy
    | sending prompt =>
      obtain rfl : requests = [] := few_requests prompt rfl
      exact ⟨_, .submit _ _ _ _ _ id Nat.zero_lt_one, id⟩
    | awaiting =>
      -- The prompt is on its way there, or the answer is on its way back.
      have waits : 1 = requests.length + 0 + 0 + answers.length := alive id
      cases requests with
      | cons prompt others => exact ⟨_, .take _ _ _ _ _, id⟩
      | nil =>
        cases answers with
        | cons reading others => exact ⟨_, .receive _ _ _ _ _, id⟩
        | nil => cases waits

end Exchanges

/-- The account after a call with a prompt, for which the editor has come to an outcome. -/
def Account.seeThrough (account : Account) (prompt : Text) (outcome : Except EditorError Text) : Account :=
  ((((account.call prompt).edit prompt).yield outcome).send (.ofEditor outcome)).give
    (.ofEditor outcome)

/-- A call can be seen through, whatever the editor will come to. -/
theorem Reachable.seeThrough {account : Account}
    (reached : Reachable ⟨.away, .listening, [], [], account⟩) (prompt : Text)
    (outcome : Except EditorError Text) :
    Reachable ⟨.away, .listening, [], [], account.seeThrough prompt outcome⟩ := by
  have called := Reachable.step _ _ reached (.call prompt _ _ _ _)
  have submitted := Reachable.step _ _ called (.submit _ _ _ _ _ id Nat.zero_lt_one)
  have taken := Reachable.step _ _ submitted (.take _ _ _ _ _)
  have yielded := Reachable.step _ _ taken (.yield _ _ outcome _ _ _)
  have answered := Reachable.step _ _ yielded (.answer _ _ _ _ _ (by simp) Nat.zero_lt_one)
  exact Reachable.step _ _ answered (.receive _ _ _ _ _)

end CommandShell.Reader
