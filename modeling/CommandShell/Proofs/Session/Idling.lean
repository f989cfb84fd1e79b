import CommandShell.Proofs.Session.Paths
import CommandShell.Proofs.Session.Sinks
import CommandShell.Proofs.Words

/-!
Blank lines and interrupts leave nothing behind but their prompts.
-/

set_option autoImplicit false

namespace CommandShell

variable {ω σ ε α : Type}

namespace Sink

/-- What a sink answers to some messages, one after another. -/
def answers (sink : Sink σ) : σ → List Bytes → List (Option Refusal)
  | _, [] => []
  | state, message :: rest =>
    (sink.write state message).1 :: answers sink (sink.write state message).2 rest

/-- Two states in which a sink answers alike whatever is written to it, for good. -/
def Same (sink : Sink σ) (state other : σ) : Prop :=
  ∀ messages, sink.answers state messages = sink.answers other messages

/-- No flush fails, or makes a difference to what the sink answers later on. -/
structure FlushesFreely (sink : Sink σ) : Prop where
  done : ∀ state, (sink.flush state).1 = none
  same : ∀ state, sink.Same state (sink.flush state).2

variable {sink : Sink σ}

theorem Same.symm {state other : σ} (same : sink.Same state other) : sink.Same other state :=
  fun messages => (same messages).symm

theorem Same.trans {state other last : σ} (same : sink.Same state other)
    (also : sink.Same other last) : sink.Same state last :=
  fun messages => (same messages).trans (also messages)

/-- A message is answered alike, and so is all that comes after it. -/
theorem Same.write {state other after : σ} (same : sink.Same state other) {message : Bytes}
    {reply : Option Refusal} (answered : sink.write state message = (reply, after)) :
    ∃ left, sink.write other message = (reply, left) ∧ sink.Same after left := by
  have now := (List.cons.inj (same [message])).1
  have later (messages : List Bytes) := (List.cons.inj (same (message :: messages))).2
  rw [answered] at now later
  exact ⟨(sink.write other message).2, Prod.ext now.symm rfl, later⟩

theorem FlushesFreely.flush_eq (free : sink.FlushesFreely) (state : σ) :
    sink.flush state = (none, (sink.flush state).2) := Prod.ext (free.done state) rfl

theorem FlushesFreely.flushesWith (free : sink.FlushesFreely) : sink.FlushesWith sink sink.Same := by
  intro state other same
  refine ⟨_, _, free.flush_eq state, free.flush_eq other, ?_⟩
  exact ((free.same state).symm.trans same).trans (free.same other)

end Sink

/-- A reading that asks for nothing, while nothing changes: an interrupt, or a line of white space. -/
structure Item.Idle (item : Item ω σ) : Prop where
  reading : item.reading = .interrupted ∨ ∃ line, item.reading = .line line ∧ line.isBlank
  world : item.world = none
  sink : item.adjust = id

/-- What becomes of the sink depends on what it answers only. -/
def Item.Respects (item : Item ω σ) (sink : Sink σ) : Prop :=
  ∀ state other, sink.Same state other → sink.Same (item.adjust state) (item.adjust other)

/-- What every turn does, whatever it is for: it moves from phase to phase, flushes and prompts. -/
def Event.isRoutine : Event → Bool
  | .prompt _ | .flushed | .noted (.moved _ _) => true
  | _ => false

namespace Trace

def withoutRoutine (trace : Trace) : Trace := trace.filter (!·.event.isRoutine)

/-- How often the sink has been flushed. -/
def flushes (trace : Trace) : Nat := trace.countP (·.event = .flushed)

@[simp] theorem withoutRoutine_append (first second : Trace) :
    withoutRoutine (first ++ second) = withoutRoutine first ++ withoutRoutine second := by
  simp only [withoutRoutine, List.filter_append]

@[simp] theorem flushes_append (first second : Trace) :
    flushes (first ++ second) = flushes first + flushes second := by
  simp only [flushes, List.countP_append]

end Trace

/-- A run that only the state of its sink tells from another, and the sinks answer alike. -/
def Ran.SameOn (sink : Sink σ) (ran rerun : Ran ω σ ε α) : Prop :=
  ∃ left, sink.Same ran.after.sink left ∧ rerun = ran.onto left

theorem Ran.SameOn.prepend {sink : Sink σ} {ran rerun : Ran ω σ ε α} (same : ran.SameOn sink rerun)
    (front : Trace) : Ran.SameOn sink ⟨ran.result, ran.after, front ++ ran.trace⟩
      ⟨rerun.result, rerun.after, front ++ rerun.trace⟩ := by
  obtain ⟨left, alike, rfl⟩ := same
  exact ⟨left, alike, rfl⟩

namespace Session

variable {setting : Setting ω σ}

theorem speak_same (speaker : Speaker) (message : Text) (before : State ω σ) (beside : σ)
    (same : setting.sink.Same before.sink beside) :
    (speak setting speaker message before).SameOn setting.sink
      (speak setting speaker message (before.onto beside)) := by
  rcases answered : setting.sink.write before.sink (lineBytes message) with ⟨_ | refusal, after⟩
  · obtain ⟨left, also, still⟩ := same.write answered
    rw [speak_of_taken _ _ _ _ _ answered,
      speak_of_taken setting speaker message (before.onto beside) left also]
    exact ⟨left, still, rfl⟩
  · obtain ⟨left, also, still⟩ := same.write answered
    rw [speak_of_refused _ _ _ _ _ _ answered,
      speak_of_refused setting speaker message (before.onto beside) refusal left also]
    exact ⟨left, still, rfl⟩

theorem startExternal_same (free : setting.sink.FlushesFreely) (program : Path) (command : Command)
    (before : State ω σ) (beside : σ) (same : setting.sink.Same before.sink beside) :
    (startExternal setting program command before).SameOn setting.sink
      (startExternal setting program command (before.onto beside)) := by
  rcases launched : launchOf setting program command before with ⟨error | process, written, world⟩
  · obtain ⟨flushed, left, done, also, still⟩ := free.flushesWith _ _ same
    rw [startExternal_of_refused setting _ _ _ _ _ _ _ done launched,
      startExternal_of_refused setting program command (before.onto beside) error written world left
        also launched]
    have told := speak_same .shell (notFoundMessage command.word) (before.launched world flushed) left
      still
    exact told.prepend (launching program command written before.phase ++
      [⟨before.phase, .noted (.launchFailed command.word error)⟩])
  · exact startExternal_onto_of_started free.flushesWith program command before beside same process
      written world launched

theorem perform_same (free : setting.sink.FlushesFreely) (command : Command) (errand : Errand)
    (before : State ω σ) (beside : σ) (same : setting.sink.Same before.sink beside) :
    (perform setting command errand before).SameOn setting.sink
      (perform setting command errand (before.onto beside)) := by
  cases errand with
  | say speaker message => exact speak_same speaker message before beside same
  | leave => exact ⟨beside, same, rfl⟩
  | start program => exact startExternal_same free program command before beside same

theorem resume_same (free : setting.sink.FlushesFreely) (line : Text) (begun : Except ShellError Begun)
    (before : State ω σ) (beside : σ) (same : setting.sink.Same before.sink beside) :
    (resume setting line begun before).SameOn setting.sink
      (resume setting line begun (before.onto beside)) := by
  cases begun with
  | ok begun => exact resume_onto free.flushesWith line begun before beside same
  | error error =>
    rw [resume]
    rcases answered : setting.sink.write before.sink (reportBytes error) with ⟨_ | refusal, after⟩
    · obtain ⟨left, also, still⟩ := same.write answered
      rw [conclude_error_of_taken _ _ _ _ _ answered,
        conclude_error_of_taken setting line error (before.onto beside) left also]
      exact ⟨left, still, rfl⟩
    · obtain ⟨left, also, still⟩ := same.write answered
      rw [conclude_error_of_refused _ _ _ _ _ _ answered,
        conclude_error_of_refused setting line error (before.onto beside) refusal left also]
      exact ⟨left, still, rfl⟩

theorem obeyLine_same (free : setting.sink.FlushesFreely) (line : Text) (before : State ω σ) (beside : σ)
    (same : setting.sink.Same before.sink beside) :
    (obeyLine setting line before).SameOn setting.sink
      (obeyLine setting line (before.onto beside)) := by
  cases blank : (Command.parse line).isBlank with
  | true =>
    rw [obeyLine_of_blank _ _ _ blank, obeyLine_of_blank _ _ _ blank]
    exact ⟨beside, same, rfl⟩
  | false =>
    obtain ⟨left, alike, performed⟩ := perform_same free (Command.parse line)
      (errandOf setting (Command.parse line) (State.dispatching before)) (State.dispatching before)
      beside same
    have again := obeyLine_onto_of_command setting setting.sink line before beside blank _ performed
    change obeyLine setting line (before.onto beside) = _ at again
    rw [obeyLine_of_command _ _ before blank, again]
    exact (resume_same free line _ _ left alike).prepend _

theorem obey_same (free : setting.sink.FlushesFreely) (reading : Reading) (before : State ω σ)
    (beside : σ) (same : setting.sink.Same before.sink beside) :
    (obey setting reading before).SameOn setting.sink (obey setting reading (before.onto beside)) := by
  cases reading with
  | line text => exact obeyLine_same free text before beside same
  | interrupted => exact ⟨beside, same, rfl⟩
  | failed cause => exact ⟨beside, same, rfl⟩
  | endOfInput =>
    rw [obey_endOfInput, obey_endOfInput]
    rcases answered : setting.sink.write before.sink (lineBytes []) with ⟨_ | refusal, after⟩
    · obtain ⟨left, also, still⟩ := same.write answered
      obtain ⟨last, kept, done, flushes, alike⟩ := free.flushesWith _ _ still
      rw [finish_of_done _ _ _ _ answered done,
        finish_of_done setting (before.onto beside) left kept also flushes]
      exact ⟨kept, alike, rfl⟩
    · obtain ⟨left, also, still⟩ := same.write answered
      rw [finish_of_refused _ _ _ _ answered,
        finish_of_refused setting (before.onto beside) refusal left also]
      exact ⟨left, still, rfl⟩

/-- What comes before a reading. -/
def prelude (prompt : Text) (phase : Phase) : Trace :=
  [resting phase, ⟨.idle, .flushed⟩, ⟨.idle, .prompt prompt⟩]

/-- The phase in which a turn begins shows in its first record only. -/
theorem turn_same (free : setting.sink.FlushesFreely) (item : Item ω σ)
    (respects : item.Respects setting.sink) (before : State ω σ) (phase : Phase) (beside : σ)
    (same : setting.sink.Same before.sink beside) :
    ∃ obeyed : Ran ω σ ShellError (Option Nat), ∃ left, setting.sink.Same obeyed.after.sink left ∧
      turn setting item before =
        ⟨obeyed.result, obeyed.after, prelude setting.prompt before.phase ++ obeyed.trace⟩ ∧
      turn setting item ⟨phase, before.world, beside, before.attempts⟩ =
        ⟨obeyed.result, obeyed.after.onto left, prelude setting.prompt phase ++ obeyed.trace⟩ := by
  obtain ⟨flushed, kept, done, also, still⟩ := free.flushesWith _ _ same
  obtain ⟨left, alike, obeyed⟩ := obey_same free item.reading (arranged item before flushed)
    (item.adjust kept) (respects _ _ still)
  refine ⟨_, left, alike, turn_of_done _ _ _ _ done, ?_⟩
  have again : obey setting item.reading
      (arranged item ⟨phase, before.world, beside, before.attempts⟩ kept) =
        (obey setting item.reading (arranged item before flushed)).onto left := obeyed
  rw [turn_of_done _ _ _ _ also, again]
  rfl

/-- A turn that asks for nothing shows its prompt, and nothing changes. -/
theorem turn_idle (free : setting.sink.FlushesFreely) (item : Item ω σ) (idle : item.Idle)
    (before : State ω σ) :
    ∃ phase flushed trace, turn setting item before =
        ⟨.ok none, ⟨phase, before.world, flushed, before.attempts⟩, trace⟩ ∧
      setting.sink.Same before.sink flushed ∧ trace.withoutRoutine = [] ∧ trace.prompts = 1 ∧
      trace.flushes = 1 := by
  obtain ⟨reading, world, adjust⟩ := idle
  have done := free.flush_eq before.sink
  have stays : arranged item before (setting.sink.flush before.sink).2 =
      ⟨.idle, before.world, (setting.sink.flush before.sink).2, before.attempts⟩ := by
    rw [arranged, world, adjust]
    rfl
  rw [turn_of_done _ _ _ _ done, stays]
  rcases reading with interrupted | ⟨line, read, blank⟩
  · rw [interrupted]
    exact ⟨_, _, _, rfl, free.same _, rfl, rfl, rfl⟩
  · rw [read]
    have nothing : (Command.parse line).isBlank = true := (Command.isBlank_parse line).trans blank
    rw [obey, obeyLine_of_blank _ _ _ nothing]
    exact ⟨_, _, _, rfl, free.same _, rfl, rfl, rfl⟩

/-- The same session, but for so many turns that have been left out. -/
structure Spared (sink : Sink σ) (erased : Nat) (ran rerun : Ran ω σ ShellError Nat) : Prop where
  result : rerun.result = ran.result
  phase : rerun.after.phase = ran.after.phase
  world : rerun.after.world = ran.after.world
  attempts : rerun.after.attempts = ran.after.attempts
  sink : sink.Same ran.after.sink rerun.after.sink
  trace : rerun.trace.withoutRoutine = ran.trace.withoutRoutine
  prompts : ran.trace.prompts = rerun.trace.prompts + erased
  flushes : ran.trace.flushes = rerun.trace.flushes + erased

/-- A turn that both sessions take. -/
theorem Spared.both {sink : Sink σ} {erased : Nat} {ran rerun : Ran ω σ ShellError Nat}
    (spared : Spared sink erased ran rerun) (prompt : Text) (phase other : Phase) (happened : Trace) :
    Spared sink erased
      ⟨ran.result, ran.after, prelude prompt phase ++ happened ++ ran.trace⟩
      ⟨rerun.result, rerun.after, prelude prompt other ++ happened ++ rerun.trace⟩ := by
  refine { spared with trace := ?_, prompts := ?_, flushes := ?_ }
  · simp only [Trace.withoutRoutine_append, spared.trace]
    rfl
  · have one : Trace.prompts (prelude prompt phase) = Trace.prompts (prelude prompt other) := rfl
    simp only [Trace.prompts_append, spared.prompts, one]
    omega
  · have one : Trace.flushes (prelude prompt phase) = Trace.flushes (prelude prompt other) := rfl
    simp only [Trace.flushes_append, spared.flushes, one]
    omega

/-- A turn that only the first session takes. -/
theorem Spared.left_out {sink : Sink σ} {erased : Nat} {ran rerun : Ran ω σ ShellError Nat}
    (spared : Spared sink erased ran rerun) {happened : Trace} (quiet : happened.withoutRoutine = [])
    (prompt : happened.prompts = 1) (flush : happened.flushes = 1) :
    Spared sink (erased + 1) ⟨ran.result, ran.after, happened ++ ran.trace⟩ rerun := by
  refine { spared with trace := ?_, prompts := ?_, flushes := ?_ }
  · rw [Trace.withoutRoutine_append, quiet, List.nil_append, spared.trace]
  · rw [Trace.prompts_append, prompt, spared.prompts]
    omega
  · rw [Trace.flushes_append, flush, spared.flushes]
    omega

/-- The turn that ends both sessions. -/
theorem spared_of_ended {sink : Sink σ} {after : State ω σ} {left : σ}
    (same : sink.Same after.sink left) (result : Except ShellError Nat) (prompt : Text)
    (phase other : Phase) (happened : Trace) :
    Spared sink 0 ⟨result, after, prelude prompt phase ++ happened⟩
      ⟨result, after.onto left, prelude prompt other ++ happened⟩ := by
  have shared : Spared sink 0 ⟨result, after, []⟩ ⟨result, after.onto left, []⟩ :=
    ⟨rfl, rfl, rfl, rfl, same, rfl, rfl, rfl⟩
  simpa only [List.append_nil] using shared.both prompt phase other happened

/-- How many of the marked readings a session reads. -/
def markedRead (setting : Setting ω σ) (marked : List (Bool × Item ω σ)) (before : State ω σ) : Nat :=
  (marked.take (turns setting (marked.map Prod.snd) before).length).countP (·.1)

/-- The two sessions may stand in different phases when the next turn begins. -/
theorem run_spared (free : setting.sink.FlushesFreely) (marked : List (Bool × Item ω σ))
    (idle : ∀ item, (true, item) ∈ marked → item.Idle)
    (respects : ∀ item, (false, item) ∈ marked → item.Respects setting.sink) (before : State ω σ)
    (phase : Phase) (beside : σ) (same : setting.sink.Same before.sink beside) :
    Spared setting.sink (markedRead setting marked before)
      (run setting (marked.map Prod.snd) before)
      (run setting ((marked.filter (!·.1)).map Prod.snd)
        ⟨phase, before.world, beside, before.attempts⟩) := by
  induction marked generalizing before phase beside with
  | nil =>
    have respected : (closing : Item ω σ).Respects setting.sink := fun _ _ alike => alike
    obtain ⟨obeyed, left, alike, here, there⟩ := turn_same free closing respected before phase beside same
    obtain ⟨result, ended, whole⟩ := run_nil_ended setting before
    obtain ⟨final, also, rest⟩ :=
      run_nil_ended setting ⟨phase, before.world, beside, before.attempts⟩
    rw [here] at ended whole
    rw [there] at also rest
    obtain rfl := Option.some.inj (ended.symm.trans also)
    change Spared _ _ (run setting [] before) (run setting [] _)
    rw [whole, rest]
    exact spared_of_ended alike result setting.prompt before.phase phase obeyed.trace
  | cons entry rest ih =>
    have idle_rest := fun item member => idle item (List.mem_cons_of_mem entry member)
    have respects_rest := fun item member => respects item (List.mem_cons_of_mem entry member)
    obtain ⟨erased, item⟩ := entry
    cases erased with
    | true =>
      obtain ⟨reached, flushed, trace, turned, alike, quiet, one, once⟩ :=
        turn_idle free item (idle item List.mem_cons_self) before
      have next : (turn setting item before).result = .ok none := by rw [turned]
      have later := ih idle_rest respects_rest
        ⟨reached, before.world, flushed, before.attempts⟩ phase beside (alike.symm.trans same)
      have counted : markedRead setting ((true, item) :: rest) before =
          markedRead setting rest ⟨reached, before.world, flushed, before.attempts⟩ + 1 := by
        simp only [markedRead, List.map_cons, turns_cons_of_goOn _ _ _ _ next, turned,
          List.length_cons, List.take_succ_cons, List.countP_cons_of_pos]
      rw [counted, List.map_cons, run_cons_of_goOn _ _ _ _ next, turned]
      exact later.left_out quiet one once
    | false =>
      obtain ⟨obeyed, left, alike, here, there⟩ :=
        turn_same free item (respects item List.mem_cons_self) before phase beside same
      have kept : ((false, item) :: rest).filter (!·.1) = (false, item) :: rest.filter (!·.1) := rfl
      rw [kept, List.map_cons, List.map_cons]
      cases ended : verdict obeyed.result with
      | none =>
        have goesOn := (verdict_eq_none_iff _).mp ended
        have next : (turn setting item before).result = .ok none := by rw [here, goesOn]
        have also : (turn setting item ⟨phase, before.world, beside, before.attempts⟩).result =
            .ok none := by rw [there, goesOn]
        have later := ih idle_rest respects_rest obeyed.after obeyed.after.phase left alike
        have counted : markedRead setting ((false, item) :: rest) before =
            markedRead setting rest obeyed.after := by
          simp only [markedRead, List.map_cons, turns_cons_of_goOn _ _ _ _ next, here,
            List.length_cons, List.take_succ_cons, List.countP_cons_of_neg, Bool.false_eq_true,
            not_false_eq_true]
        rw [counted, run_cons_of_goOn _ _ _ _ next, run_cons_of_goOn _ _ _ _ also, here, there]
        exact later.both setting.prompt before.phase phase obeyed.trace
      | some result =>
        have ends : verdict (turn setting item before).result = some result := by rw [here, ended]
        have also : verdict (turn setting item ⟨phase, before.world, beside, before.attempts⟩).result =
            some result := by rw [there, ended]
        have counted : markedRead setting ((false, item) :: rest) before = 0 := by
          simp [markedRead, turns_cons_of_ended _ _ _ _ _ ends]
        rw [counted, run_cons_of_ended _ _ _ _ _ ends, run_cons_of_ended _ _ _ _ _ also, here, there]
        exact spared_of_ended alike result setting.prompt before.phase phase obeyed.trace

/-- Interrupts and blank lines can be left out of a script. The session ends the same way and in the same
state; all that is written, refused, launched and noted is the same, in the same order and the same
phases; and there is one prompt and one flush less for each reading left out that the session would have
come to. The sink may refuse messages, as long as its flushes do not decide which. -/
theorem run_spares_idle (setting : Setting ω σ) (free : setting.sink.FlushesFreely)
    (marked : List (Bool × Item ω σ)) (idle : ∀ item, (true, item) ∈ marked → item.Idle)
    (respects : ∀ item, (false, item) ∈ marked → item.Respects setting.sink) (world : ω) (sink : σ) :
    let ran := run setting (marked.map Prod.snd) (start world sink)
    let rerun := run setting ((marked.filter (!·.1)).map Prod.snd) (start world sink)
    let spared := markedRead setting marked (start world sink)
    rerun.result = ran.result ∧ rerun.after.phase = ran.after.phase ∧
      rerun.after.world = ran.after.world ∧
      rerun.trace.withoutRoutine = ran.trace.withoutRoutine ∧
      ran.trace.prompts = rerun.trace.prompts + spared ∧
      ran.trace.flushes = rerun.trace.flushes + spared := by
  intro ran rerun spared
  have left_out : Spared setting.sink spared ran rerun :=
    run_spared free marked idle respects (start world sink) .idle sink fun _ => rfl
  exact ⟨left_out.result, left_out.phase, left_out.world, left_out.trace, left_out.prompts,
    left_out.flushes⟩

/-- A sink that refuses messages, and is flushed without fail. -/
def grudging : Setting Surroundings Flaws :=
  ⟨.environment, .still fun _ request => .error (.notFound request.name),
    ⟨Flaws.write, fun flaws => (none, flaws)⟩, "$ ".toList⟩

theorem grudging_flushesFreely : grudging.sink.FlushesFreely := ⟨fun _ => rfl, fun _ _ => rfl⟩

/-- The first message is refused and told of. Behind `exit` nothing is read, and nothing spared. -/
theorem run_spares_idle_grudging :
    let marked : List (Bool × Item Surroundings Flaws) :=
      [(true, .plain .interrupted), (false, .plain (.line "echo a".toList)),
        (true, .plain (.line "\u3000 ".toList)), (false, .plain (.line "exit".toList)),
        (true, .plain .interrupted)]
    let before : State Surroundings Flaws := start ⟨none, Files.none⟩ ⟨1, 0, none⟩
    let ran := run grudging (marked.map Prod.snd) before
    let rerun := run grudging ((marked.filter (!·.1)).map Prod.snd) before
    grudging.sink.FlushesFreely ∧ (∀ item, (true, item) ∈ marked → item.Idle) ∧
      (∀ item, (false, item) ∈ marked → item.Respects grudging.sink) ∧
      rerun.trace.withoutRoutine = ran.trace.withoutRoutine ∧
      ran.trace.output = Utf8.encode "Error: failed to write output: pipe closed\n".toList ∧
      ran.trace.prompts = 4 ∧ ran.trace.prompts = rerun.trace.prompts + 2 := by
  intro marked before ran rerun
  have idle : ∀ item, (true, item) ∈ marked → item.Idle := by
    intro item member
    have either : item = .plain .interrupted ∨ item = .plain (.line "\u3000 ".toList) ∨
        item = .plain .interrupted := by simpa [marked] using member
    rcases either with rfl | rfl | rfl
    · exact ⟨.inl rfl, rfl, rfl⟩
    · exact ⟨.inr ⟨_, rfl, by decide⟩, rfl, rfl⟩
    · exact ⟨.inl rfl, rfl, rfl⟩
  have respects : ∀ item, (false, item) ∈ marked → item.Respects grudging.sink := by
    intro item member
    have either : item = .plain (.line "echo a".toList) ∨ item = .plain (.line "exit".toList) := by
      simpa [marked] using member
    rcases either with rfl | rfl <;> exact fun _ _ alike => alike
  obtain ⟨-, -, -, trace, prompts, -⟩ := run_spares_idle grudging grudging_flushesFreely marked idle
    respects ⟨none, Files.none⟩ ⟨1, 0, none⟩
  refine ⟨grudging_flushesFreely, idle, respects, trace, ?_, ?_, prompts⟩
  · decide +kernel
  · decide +kernel

/-- A blank line behind `exit` is never asked for: without it there is no prompt less. -/
theorem unread_blank_spares_nothing :
    let marked : List (Bool × Item Surroundings Flaws) :=
      [(false, .plain (.line "exit".toList)), (true, .plain (.line " ".toList))]
    let before : State Surroundings Flaws := start ⟨none, Files.none⟩ Flaws.none
    let ran := run grudging (marked.map Prod.snd) before
    let rerun := run grudging ((marked.filter (!·.1)).map Prod.snd) before
    grudging.sink.FlushesFreely ∧ (∀ item, (true, item) ∈ marked → item.Idle) ∧
      marked.countP (·.1) = 1 ∧ ran.trace.prompts = 1 ∧ rerun.trace.prompts = 1 ∧
      ran.trace.prompts ≠ rerun.trace.prompts + marked.countP (·.1) ∧
      ran.trace.flushes ≠ rerun.trace.flushes + marked.countP (·.1) := by
  intro marked before ran rerun
  refine ⟨grudging_flushesFreely, ?_, ?_⟩
  · intro item member
    have same : item = .plain (.line " ".toList) := by simpa [marked] using member
    subst same
    exact ⟨.inr ⟨_, rfl, by decide⟩, rfl, rfl⟩
  · decide +kernel

end Session

end CommandShell
