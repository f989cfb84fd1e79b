import CommandShell.Proofs.Session.Turns
import CommandShell.Proofs.Words

/-!
What a session looks like from outside, as long as its sink takes everything. Each reading has one
response, told without phases, flushes, errors and records.
-/

set_option autoImplicit false

namespace CommandShell

variable {ω σ : Type}

/-- A sink that takes every message and every flush, whatever state it is in. -/
def Sink.NeverFails (sink : Sink σ) : Prop :=
  ∀ state, (∀ message, (sink.write state message).1 = none) ∧ (sink.flush state).1 = none

theorem Sink.unlimited_neverFails : Sink.unlimited.NeverFails := fun _ => ⟨fun _ => rfl, rfl⟩

/-- What can be seen of a session. -/
inductive Sight
  | prompt (text : Text)
  | output (bytes : Bytes)
  | launch (request : LaunchRequest)
  deriving DecidableEq

def Event.sight? : Event → Option Sight
  | .prompt text => some (.prompt text)
  | .wrote taken => some (.output taken)
  | .launch request => some (.launch request)
  | _ => none

def Sight.bytes : Sight → Bytes
  | .output bytes => bytes
  | _ => []

def Sight.launched? : Sight → Option LaunchRequest
  | .launch request => some request
  | _ => none

/-- What is seen of a session, in order. -/
def Trace.sights (trace : Trace) : List Sight := trace.filterMap fun moment => moment.event.sight?

@[simp] theorem Trace.sights_append (first second : Trace) :
    sights (first ++ second) = sights first ++ sights second := by
  simp only [sights, List.filterMap_append]

@[simp] theorem Trace.sights_ofNotes (phase : Phase) (notes : List Note) :
    sights (ofNotes phase notes) = [] := by
  induction notes with
  | nil => rfl
  | cons note rest ih => exact ih

/-- All that is written is seen. -/
theorem Trace.output_eq_sights (trace : Trace) :
    output trace = (sights trace).flatMap Sight.bytes := by
  induction trace with
  | nil => rfl
  | cons moment rest ih =>
    rw [output_cons, ih]
    obtain ⟨phase, event⟩ := moment
    cases event <;> rfl

/-- So is every attempt to start a program. -/
theorem Trace.launches_eq_sights (trace : Trace) :
    launches trace = (sights trace).filterMap Sight.launched? := by
  rw [launches, sights, List.filterMap_filterMap]
  congr 1
  funext moment
  cases moment.event <;> rfl

/-- What a reading comes to: what is seen after its prompt, how the session ends with it, if it does,
and what a launch leaves behind. -/
structure Response (ω : Type) where
  sights : List Sight
  ending : Option (Except ShellError Nat)
  world : ω
  attempts : Nat

def Errand.response (host : Host ω) (command : Command) (attempts : Nat) (world : ω) :
    Errand → Response ω
  | .say _ message => ⟨[.output (lineBytes message)], none, world, attempts⟩
  | .leave => ⟨[], some (.ok 0), world, attempts⟩
  | .start program =>
    let request : LaunchRequest := ⟨program, command.word, command.arguments⟩
    let launched := host.launch attempts world request
    let told : List Sight := match launched.outcome with
      | .ok _ => []
      | .error _ => [.output (lineBytes (notFoundMessage command.word))]
    ⟨.launch request :: told, none, launched.world, attempts + 1⟩

/-- How a line goes on whose errand this is. -/
def Errand.outcome : Errand → Outcome
  | .leave => .exit 0
  | .say _ _ | .start _ => .goOn

/-- The response to a reading. A line is classified by what is around when it is read. -/
def respond (source : PathSource) (host : Host ω) (attempts : Nat) (world : ω) :
    Reading → Response ω
  | .line text =>
    if text.isBlank then ⟨[], none, world, attempts⟩
    else
      let command := Command.parse text
      (Errand.of source (host.look world) command).response host command attempts world
  | .interrupted => ⟨[], none, world, attempts⟩
  | .endOfInput => ⟨[.output (lineBytes [])], some (.ok 0), world, attempts⟩
  | .failed cause => ⟨[], some (.error (.input cause)), world, attempts⟩

/-- The responses to a script, one for each reading up to the one that ends the session. -/
def responses (source : PathSource) (host : Host ω) : List (Item ω σ) → Nat → ω → List (Response ω)
  | [], attempts, world => [respond source host attempts world .endOfInput]
  | item :: rest, attempts, world =>
    let response := respond source host attempts (item.world.getD world) item.reading
    response ::
      if response.ending.isNone then responses source host rest response.attempts response.world
      else []

namespace Session

theorem write_of_neverFails {sink : Sink σ} (reliable : sink.NeverFails) (state : σ)
    (message : Bytes) : ∃ after, sink.write state message = (none, after) :=
  ⟨(sink.write state message).2, Prod.ext ((reliable state).1 message) rfl⟩

theorem flush_of_neverFails {sink : Sink σ} (reliable : sink.NeverFails) (state : σ) :
    ∃ after, sink.flush state = (none, after) :=
  ⟨(sink.flush state).2, Prod.ext (reliable state).2 rfl⟩

/-- What was done is what the response says. -/
structure Meets (ran : Ran ω σ ShellError (Option Nat)) (response : Response ω) : Prop where
  ending : verdict ran.result = response.ending
  sights : ran.trace.sights = response.sights
  world : ran.after.world = response.world
  attempts : ran.after.attempts = response.attempts

/-- An errand that meets no failure of the sink. -/
theorem perform_shows (setting : Setting ω σ) (reliable : setting.sink.NeverFails)
    (command : Command) (before : State ω σ) (errand : Errand) (ran : Ran ω σ ShellError Begun)
    (performed : Performed setting command before errand ran) :
    let response := errand.response setting.host command before.attempts before.world
    ∃ begun, ran.result = .ok begun ∧ Begun.outcome begun = errand.outcome ∧
      ran.trace.sights = response.sights ∧ ran.after.world = response.world ∧
      ran.after.attempts = response.attempts := by
  cases performed with
  | said speaker message after taken => exact ⟨_, rfl, rfl, rfl, rfl, rfl⟩
  | unsaid speaker message refusal after refused =>
    have taken := (reliable before.sink).1 (lineBytes message)
    rw [refused] at taken
    cases taken
  | left => exact ⟨_, rfl, rfl, rfl, rfl, rfl⟩
  | unflushed program reason after failed =>
    have done := (reliable before.sink).2
    rw [failed] at done
    cases done
  | refused program error written world flushed after done launched taken =>
    unfold launchOf at launched
    refine ⟨_, rfl, rfl, ?_⟩
    simp only [Errand.response, launched]
    exact ⟨rfl, rfl, rfl⟩
  | refusedUnsaid program error written world flushed refusal after done launched refused =>
    have taken := (reliable flushed).1 (lineBytes (notFoundMessage command.word))
    rw [refused] at taken
    cases taken
  | started program process written world flushed done launched =>
    unfold launchOf at launched
    refine ⟨_, rfl, rfl, ?_⟩
    simp only [Errand.response, launched, Trace.sights_append, Trace.sights_ofNotes]
    exact ⟨rfl, rfl, rfl⟩

theorem Begun.sights_ending (begun : Begun) (phase : Phase) : (begun.ending phase).sights = [] := by
  cases begun <;> rfl

theorem resume_meets (setting : Setting ω σ) (reliable : setting.sink.NeverFails) (line : Text)
    (command : Command) (before : State ω σ) (errand : Errand) (ran : Ran ω σ ShellError Begun)
    (performed : Performed setting command before errand ran) :
    Meets
      ⟨(resume setting line ran.result ran.after).result,
        (resume setting line ran.result ran.after).after,
        ran.trace ++ (resume setting line ran.result ran.after).trace⟩
      (errand.response setting.host command before.attempts before.world) := by
  obtain ⟨begun, result, outcome, seen, world, attempts⟩ :=
    perform_shows setting reliable command before errand ran performed
  rw [result, resume_ok, outcome]
  have concluded := conclude_cases setting line (.ok errand.outcome) ran.after
  generalize conclude setting line (.ok errand.outcome) ran.after = last at concluded ⊢
  cases errand with
  | leave =>
    cases concluded with
    | left code after done =>
      refine ⟨rfl, ?_, world, attempts⟩
      rw [Trace.sights_append, Trace.sights_append, seen, Begun.sights_ending]
      rfl
    | unflushed code reason after failed =>
      have done := (reliable ran.after.sink).2
      rw [failed] at done
      cases done
  | say speaker message =>
    cases concluded
    refine ⟨rfl, ?_, world, attempts⟩
    rw [Trace.sights_append, Trace.sights_append, seen, Begun.sights_ending]
    rfl
  | start program =>
    cases concluded
    refine ⟨rfl, ?_, world, attempts⟩
    rw [Trace.sights_append, Trace.sights_append, seen, Begun.sights_ending]
    exact List.append_nil _

theorem obeyLine_meets (setting : Setting ω σ) (reliable : setting.sink.NeverFails) (line : Text)
    (before : State ω σ) :
    Meets (obeyLine setting line before)
      (respond setting.source setting.host before.attempts before.world (.line line)) := by
  cases blank : line.isBlank with
  | true =>
    rw [obeyLine_of_blank _ _ _ ((Command.isBlank_parse line).trans blank), respond, if_pos blank]
    exact ⟨rfl, rfl, rfl, rfl⟩
  | false =>
    have filled := (Command.isBlank_parse line).trans blank
    let ready := State.dispatching before
    let errand := errandOf setting (Command.parse line) ready
    have met := resume_meets setting reliable line (Command.parse line) ready errand _
      (perform_cases setting (Command.parse line) errand ready)
    rw [obeyLine_of_command _ _ _ filled, respond, if_neg (by simp [blank])]
    refine ⟨met.ending, ?_, met.world, met.attempts⟩
    have seen := met.sights
    simp only [Trace.sights_append] at seen ⊢
    rw [opening, Trace.sights_ofNotes, List.append_nil, List.append_assoc]
    exact seen

theorem obey_meets (setting : Setting ω σ) (reliable : setting.sink.NeverFails) (reading : Reading)
    (before : State ω σ) :
    Meets (obey setting reading before)
      (respond setting.source setting.host before.attempts before.world reading) := by
  cases reading with
  | line text => exact obeyLine_meets setting reliable text before
  | interrupted => exact ⟨rfl, rfl, rfl, rfl⟩
  | failed cause => exact ⟨rfl, rfl, rfl, rfl⟩
  | endOfInput =>
    rw [obey_endOfInput]
    have finished := finish_cases setting before
    generalize finish setting before = last at finished ⊢
    cases finished with
    | ended written after taken done => exact ⟨rfl, rfl, rfl, rfl⟩
    | unwritten refusal after refused =>
      have taken := (reliable before.sink).1 (lineBytes [])
      rw [refused] at taken
      cases taken
    | unflushed written reason after taken failed =>
      have done := (reliable written).2
      rw [failed] at done
      cases done

/-- A turn shows its prompt and then what its reading comes to. -/
theorem turn_meets (setting : Setting ω σ) (reliable : setting.sink.NeverFails) (item : Item ω σ)
    (before : State ω σ) :
    let ran := turn setting item before
    let response := respond setting.source setting.host before.attempts
      (item.world.getD before.world) item.reading
    verdict ran.result = response.ending ∧
      ran.trace.sights = .prompt setting.prompt :: response.sights ∧
      ran.after.world = response.world ∧ ran.after.attempts = response.attempts := by
  obtain ⟨flushed, done⟩ := flush_of_neverFails reliable before.sink
  have met := obey_meets setting reliable item.reading (arranged item before flushed)
  rw [turn_of_done _ _ _ _ done]
  exact ⟨met.ending, congrArg (Sight.prompt setting.prompt :: ·) met.sights, met.world, met.attempts⟩

theorem responses_ne_nil (source : PathSource) (host : Host ω) (items : List (Item ω σ))
    (attempts : Nat) (world : ω) : responses source host items attempts world ≠ [] := by
  cases items <;> simp [responses]

/-- The loop and the responses, from any state on. -/
theorem run_meets (setting : Setting ω σ) (reliable : setting.sink.NeverFails)
    (items : List (Item ω σ)) (before : State ω σ) :
    let expected := responses setting.source setting.host items before.attempts before.world
    (run setting items before).trace.sights =
        expected.flatMap (fun response => .prompt setting.prompt :: response.sights) ∧
      expected.getLast?.bind Response.ending = some (run setting items before).result := by
  induction items generalizing before with
  | nil =>
    obtain ⟨ending, seen, -, -⟩ := turn_meets setting reliable closing before
    obtain ⟨result, ended, last⟩ := run_nil_ended setting before
    rw [last]
    exact ⟨seen, ending.symm.trans ended⟩
  | cons item rest ih =>
    obtain ⟨ending, seen, world, attempts⟩ := turn_meets setting reliable item before
    rw [responses]
    generalize respond setting.source setting.host before.attempts
      (item.world.getD before.world) item.reading = response at ending seen world attempts ⊢
    cases ended : verdict (turn setting item before).result with
    | none =>
      obtain ⟨others, last⟩ := ih (turn setting item before).after
      rw [world, attempts] at others last
      rw [run_cons_of_goOn _ _ _ _ ((verdict_eq_none_iff _).mp ended)]
      have goesOn : response.ending = none := ending.symm.trans ended
      simp only [goesOn, Option.isNone_none, ↓reduceIte]
      refine ⟨?_, ?_⟩
      · rw [Trace.sights_append, seen, others, List.flatMap_cons]
      · rw [List.getLast?_cons_of_ne_nil (responses_ne_nil _ _ _ _ _)]
        exact last
    | some result =>
      have ends : response.ending = some result := ending.symm.trans ended
      rw [run_cons_of_ended _ _ _ _ _ ended]
      simp only [ends, Option.isNone_some, Bool.false_eq_true, ↓reduceIte]
      refine ⟨?_, ?_⟩
      · rw [seen, List.flatMap_cons, List.flatMap_nil, List.append_nil]
      · exact ends

/-- Under a sink that takes everything a session is its script, answered reading by reading: each
reading has one prompt, in the order of the script, and nothing else is written or started, and no
other result returned, than the responses say. -/
theorem run_eq_responses (setting : Setting ω σ) (items : List (Item ω σ)) (world : ω) (sink : σ)
    (reliable : setting.sink.NeverFails) :
    let ran := run setting items (start world sink)
    let expected := responses setting.source setting.host items 0 world
    ran.trace.sights =
        expected.flatMap (fun response => .prompt setting.prompt :: response.sights) ∧
      ran.trace.output = expected.flatMap (fun response => response.sights.flatMap Sight.bytes) ∧
      ran.trace.launches =
        expected.flatMap (fun response => response.sights.filterMap Sight.launched?) ∧
      expected.getLast?.bind Response.ending = some ran.result := by
  obtain ⟨seen, ended⟩ := run_meets setting reliable items (start world sink)
  refine ⟨seen, ?_, ?_, ended⟩
  · rw [Trace.output_eq_sights, seen, List.flatMap_assoc]
    rfl
  · rw [Trace.launches_eq_sights, seen, List.filterMap_flatMap]
    rfl

/-- A setting in which every program is refused. -/
def refusing : Setting Surroundings Unit :=
  ⟨.environment, .still fun _ request => .error (.notFound request.name), .unlimited, "$ ".toList⟩

/-- A refused program is told of, an interrupt asks again, and `exit` leaves the last line unread. -/
theorem run_eq_responses_refusing :
    let items : List (Item Surroundings Unit) :=
      [.plain (.line "echo a  b".toList), .plain (.line "/x y".toList), .plain .interrupted,
        .plain (.line "exit 3".toList), .plain (.line "echo".toList)]
    let ran := run refusing items (start ⟨none, Files.none⟩ ())
    let prompt : Sight := .prompt "$ ".toList
    refusing.sink.NeverFails ∧
      ran.trace.sights =
        [prompt, .output (Utf8.encode "a b\n".toList), prompt,
          .launch ⟨Utf8.encode "/x".toList, "/x".toList, ["y".toList]⟩,
          .output (Utf8.encode "/x: command not found\n".toList), prompt, prompt] ∧
      some ran.result = some (.ok 0) := by
  have reliable : refusing.sink.NeverFails := Sink.unlimited_neverFails
  obtain ⟨seen, -, -, ended⟩ := run_eq_responses refusing
    [.plain (.line "echo a  b".toList), .plain (.line "/x y".toList), .plain .interrupted,
      .plain (.line "exit 3".toList), .plain (.line "echo".toList)] ⟨none, Files.none⟩ () reliable
  refine ⟨reliable, seen.trans ?_, ended.symm.trans ?_⟩
  · decide +kernel
  · rfl

end Session

end CommandShell
