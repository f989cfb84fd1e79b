import CommandShell.Proofs.Session.Interleaving

/-!
A launch has a process with it exactly where the host accepts it, in the world that the readings and the
launches before it have left.
-/

set_option autoImplicit false

namespace CommandShell

variable {ω σ : Type}

/-- Where a history has brought its host: the world, the attempts to start programs, and the items that
are still to be read. -/
structure Scene (ω σ : Type) where
  world : ω
  attempts : Nat
  items : List (Item ω σ)

/-- A reading brings the world it comes with, a launch the one the host leaves. Nothing else changes the
scene. -/
def Scene.next (host : Host ω) (scene : Scene ω σ) : Occurrence → Scene ω σ
  | .read _ =>
    ⟨(Session.upcoming scene.items).world.getD scene.world, scene.attempts, scene.items.tail⟩
  | .did moment _ =>
    match moment.event.launched? with
    | some request =>
      ⟨(host.launch scene.attempts scene.world request).world, scene.attempts + 1, scene.items⟩
    | none => scene
  | .settled _ _ | .awaited _ | .received _ _ => scene

/-- The scene after a history. -/
def Scene.after (host : Host ω) (scene : Scene ω σ) (history : History) : Scene ω σ :=
  history.foldl (next host) scene

/-- A launch has the process of its own number with it if the host accepts it there, and else none. -/
def Scene.Admits (host : Host ω) (scene : Scene ω σ) : Occurrence → Prop
  | .did moment child =>
    ∀ request, moment.event.launched? = some request → ∀ number, child = some number ↔
      number = scene.attempts ∧
        ∃ process, (host.launch scene.attempts scene.world request).outcome = .ok process
  | .read _ | .settled _ _ | .awaited _ | .received _ _ => True

/-- Each occurrence of a history is admitted by the scene it comes upon. -/
def Scene.Bears (host : Host ω) (scene : Scene ω σ) : History → Prop
  | [] => True
  | occurrence :: rest => scene.Admits host occurrence ∧ (scene.next host occurrence).Bears host rest

namespace Scene

variable {host : Host ω} {scene : Scene ω σ}

@[simp] theorem after_append (first second : History) :
    scene.after host (first ++ second) = (scene.after host first).after host second :=
  List.foldl_append

theorem bears_append (first second : History) :
    scene.Bears host (first ++ second) ↔
      scene.Bears host first ∧ (scene.after host first).Bears host second := by
  induction first generalizing scene with
  | nil => simp [Bears, after]
  | cons occurrence rest ih =>
    rw [List.cons_append, Bears, Bears, ih, and_assoc]
    rfl

/-- What is borne as a whole is admitted wherever it comes. -/
theorem Bears.admits {past later : History} {occurrence : Occurrence}
    (bears : scene.Bears host (past ++ occurrence :: later)) :
    (scene.after host past).Admits host occurrence :=
  ((bears_append past (occurrence :: later)).mp bears).2.1

/-- What the loop does without a launch leaves the scene as it is. -/
theorem bears_of_launches_nil (host : Host ω) (scene : Scene ω σ) (child : Option Nat) {trace : Trace}
    (quiet : trace.launches = []) :
    scene.Bears host (.ofTrace child trace) ∧ scene.after host (.ofTrace child trace) = scene := by
  rw [History.ofTrace_of_launches_nil child trace quiet]
  induction trace with
  | nil => exact ⟨trivial, rfl⟩
  | cons moment rest ih =>
    have none_launched := List.filterMap_eq_nil_iff.mp quiet
    have here : moment.event.launched? = none := none_launched moment List.mem_cons_self
    have same : scene.next host (.did moment none) = scene := by simp [next, here]
    have others := ih (List.filterMap_eq_nil_iff.mpr fun other member =>
      none_launched other (List.mem_cons_of_mem moment member))
    refine ⟨⟨?_, ?_⟩, ?_⟩
    · intro request launched
      rw [here] at launched
      cases launched
    · rw [same]
      exact others.1
    · change (scene.next host (.did moment none)).after host _ = scene
      rw [same]
      exact others.2

/-- One launch brings the world the host leaves, and is borne with the process the host accepts it with. -/
theorem bears_of_launch (host : Host ω) (scene : Scene ω σ) (child : Option Nat) {trace : Trace}
    {request : LaunchRequest} (one : trace.launches = [request])
    (accepted : ∀ number, child = some number ↔ number = scene.attempts ∧
      ∃ process, (host.launch scene.attempts scene.world request).outcome = .ok process) :
    scene.Bears host (.ofTrace child trace) ∧ scene.after host (.ofTrace child trace) =
      ⟨(host.launch scene.attempts scene.world request).world, scene.attempts + 1, scene.items⟩ := by
  obtain ⟨front, phase, back, rfl, first, last⟩ := Session.split_launch one
  have split : History.ofTrace child (front ++ ⟨phase, .launch request⟩ :: back) =
      History.ofTrace child front ++
        .did ⟨phase, .launch request⟩ child :: History.ofTrace child back := by
    simp [History.ofTrace, Event.launched?]
  obtain ⟨before, same⟩ := bears_of_launches_nil host scene child first
  have launched : scene.next host (.did ⟨phase, .launch request⟩ child) =
      ⟨(host.launch scene.attempts scene.world request).world, scene.attempts + 1, scene.items⟩ := rfl
  obtain ⟨behind, kept⟩ := bears_of_launches_nil host
    (scene.next host (.did ⟨phase, .launch request⟩ child)) child last
  have admitted : scene.Admits host (.did ⟨phase, .launch request⟩ child) := by
    intro other called
    cases called
    exact accepted
  rw [split, bears_append, after_append, same]
  refine ⟨⟨before, admitted, behind⟩, ?_⟩
  rw [← launched]
  exact kept

end Scene

namespace Session

/-- What becomes of the host from one state to another: nothing, where nothing is launched, and else what
the one launch leaves. -/
def Hosted (host : Host ω) (before after : State ω σ) (launches : List LaunchRequest) : Prop :=
  (launches = [] ∧ after.world = before.world ∧ after.attempts = before.attempts) ∨
    ∃ request, launches = [request] ∧ after.attempts = before.attempts + 1 ∧
      after.world = (host.launch before.attempts before.world request).world

theorem Hosted.attempts_eq {host : Host ω} {before after : State ω σ} {launches : List LaunchRequest}
    (hosted : Hosted host before after launches) :
    after.attempts = before.attempts + launches.length := by
  rcases hosted with ⟨rfl, -, counted⟩ | ⟨request, rfl, counted, -⟩
  · exact counted
  · exact counted

theorem conclude_world (setting : Setting ω σ) (line : Text) (outcome : Except ShellError Outcome)
    (before : State ω σ) : (conclude setting line outcome before).after.world = before.world := by
  have concluded := conclude_cases setting line outcome before
  generalize conclude setting line outcome before = ran at concluded ⊢
  cases concluded <;> rfl

theorem resume_world (setting : Setting ω σ) (line : Text) (begun : Except ShellError Begun)
    (before : State ω σ) : (resume setting line begun before).after.world = before.world := by
  cases begun with
  | error error => exact conclude_world setting line (.error error) before
  | ok begun =>
    rw [resume_ok]
    exact conclude_world setting line (.ok begun.outcome) before

theorem awaitLine_world (setting : Setting ω σ) (before : State ω σ) :
    (awaitLine setting before).after.world = before.world := by
  rcases emptied : setting.sink.flush before.sink with ⟨_ | reason, flushed⟩
  · rw [awaitLine_of_done _ _ _ emptied]
  · rw [awaitLine_of_failed _ _ _ _ emptied]

theorem finish_world (setting : Setting ω σ) (before : State ω σ) :
    (finish setting before).after.world = before.world := by
  have finished := finish_cases setting before
  generalize finish setting before = ran at finished ⊢
  cases finished <;> rfl

theorem performed_hosted {setting : Setting ω σ} {command : Command} {before : State ω σ}
    {errand : Errand} {ran : Ran ω σ ShellError Begun}
    (performed : Performed setting command before errand ran) :
    Hosted setting.host before ran.after ran.trace.launches := by
  have left {program : Path} {launched : Launched ω}
      (same : launchOf setting program command before = launched) :
      launched.world = (setting.host.launch before.attempts before.world
        ⟨program, command.word, command.arguments⟩).world := congrArg Launched.world same.symm
  cases performed with
  | refused program error written world flushed after done launched taken =>
    exact .inr ⟨_, rfl, rfl, left launched⟩
  | refusedUnsaid program error written world flushed refusal after done launched refused =>
    exact .inr ⟨_, rfl, rfl, left launched⟩
  | started program process written world flushed done launched =>
    rw [Trace.launches_append, Trace.launches_ofNotes, List.append_nil]
    exact .inr ⟨_, rfl, rfl, left launched⟩
  | said | unsaid | left | unflushed => exact .inl ⟨rfl, rfl, rfl⟩

theorem suspend_world (setting : Setting ω σ) (line : Text) (begun : Except ShellError Begun)
    (before : State ω σ) :
    (suspend setting line begun before).after.world = before.world ∧
      (suspend setting line begun before).after.attempts = before.attempts := by
  have concluded (begun : Except ShellError Begun) :
      (atOnce (resume setting line begun) before).after.world = before.world ∧
        (atOnce (resume setting line begun) before).after.attempts = before.attempts := by
    rw [atOnce_apply]
    exact ⟨resume_world setting line begun before, (resume_launches setting line begun before).2⟩
  rcases begun with error | outcome | ⟨name, process⟩
  · exact concluded (.error error)
  · exact concluded (.ok (.done outcome))
  · exact ⟨rfl, rfl⟩

theorem obeyUntil_hosted (setting : Setting ω σ) (reading : Reading) (before : State ω σ) :
    let ran := obeyUntil setting reading before
    Hosted setting.host before ran.after ran.trace.launches := by
  cases reading with
  | line line =>
    cases blank : (Command.parse line).isBlank with
    | true =>
      rw [obeyUntil, Act.bind_apply, Act.attempt_apply, beginLine_of_blank _ _ _ blank]
      exact .inl ⟨rfl, rfl, rfl⟩
    | false =>
      have performed := performed_hosted (perform_cases setting (Command.parse line)
        (errandOf setting (Command.parse line) (State.dispatching before)) (State.dispatching before))
      have world (begun) (state : State ω σ) := (suspend_world setting line begun state).1
      have attempts (begun) (state : State ω σ) := (suspend_world setting line begun state).2
      rw [obeyUntil_of_command _ _ _ blank]
      simp only [Trace.launches_append, suspend_launches, opening, Trace.launches_ofNotes,
        List.append_nil, Hosted, world, attempts]
      exact performed
  | interrupted => exact .inl ⟨rfl, rfl, rfl⟩
  | failed cause => exact .inl ⟨rfl, rfl, rfl⟩
  | endOfInput =>
    have whole : obeyUntil setting .endOfInput = atOnce (obey setting .endOfInput) := rfl
    obtain ⟨none_launched, counted⟩ := finish_launches setting before
    rw [whole, atOnce_apply, obey_endOfInput]
    exact .inl ⟨none_launched, finish_world setting before, counted⟩

/-- The items that are left to a loop, unless it has ended. -/
def Position.left? : Position ω σ → Option (List (Item ω σ))
  | .ready items | .asked items | .started _ _ _ _ items | .waiting _ _ _ _ items => some items
  | .ended _ => none

/-- A history is borne by the scene it begins with, and the loop is in the scene it has led to. -/
structure Followed (host : Host ω) (first : Scene ω σ) (system : System ω σ) : Prop where
  bears : first.Bears host system.history
  here : ∀ items, system.position.left? = some items →
    first.after host system.history = ⟨system.session.world, system.session.attempts, items⟩

theorem left?_prompted {items others : List (Item ω σ)} {result : Except ShellError Unit}
    (left : (Position.prompted items result).left? = some others) : items = others := by
  rcases result with error | value
  · cases left
  · exact Option.some.inj left

theorem left?_after {items others : List (Item ω σ)} {child : Nat} {result : Except ShellError Paused}
    (left : (Position.after items child result).left? = some others) : items = others := by
  rcases result with error | (_ | code) | ⟨line, name, process⟩
  · cases left
  · exact Option.some.inj left
  · cases left
  · exact Option.some.inj left

/-- The process that a reading starts is the one of the launch the host accepts. -/
theorem startedBy_eq_some_iff (setting : Setting ω σ) (reading : Reading) (before : State ω σ)
    {request : LaunchRequest} (one : (obeyUntil setting reading before).trace.launches = [request])
    (number : Nat) :
    startedBy before.attempts (obeyUntil setting reading before).result = some number ↔
      number = before.attempts ∧ ∃ process,
        (setting.host.launch before.attempts before.world request).outcome = .ok process := by
  have accepted := startedBy_iff_accepted setting reading before request (by rw [one]; simp)
  generalize (obeyUntil setting reading before).result = result at accepted ⊢
  rw [← accepted]
  rcases result with error | code | ⟨line, name, process⟩ <;> simp [startedBy, eq_comm]

theorem hear_followed (setting : Setting ω σ) {first : Scene ω σ} {items : List (Item ω σ)}
    {session : State ω σ} {history : History} (bears : first.Bears setting.host history)
    (here : first.after setting.host history = ⟨session.world, session.attempts, items⟩) :
    let ran := hear setting (upcoming items) session
    let heard := history ++ .read (upcoming items).reading ::
      History.ofTrace (startedBy session.attempts ran.result) ran.trace
    first.Bears setting.host heard ∧ first.after setting.host heard =
      ⟨ran.after.world, ran.after.attempts, items.tail⟩ := by
  intro ran heard
  have hosted := obeyUntil_hosted setting (upcoming items).reading (changed (upcoming items) session)
  have arrived : (first.after setting.host history).next setting.host
      (.read (upcoming items).reading) =
        ⟨(changed (upcoming items) session).world, session.attempts, items.tail⟩ := by
    rw [here]
    rfl
  have split : heard = (history ++ [.read (upcoming items).reading]) ++
      History.ofTrace (startedBy session.attempts ran.result) ran.trace := by simp [heard]
  have read : first.after setting.host (history ++ [.read (upcoming items).reading]) = _ :=
    (Scene.after_append _ _).trans arrived
  have borne : first.Bears setting.host (history ++ [.read (upcoming items).reading]) :=
    (Scene.bears_append _ _).mpr ⟨bears, trivial, trivial⟩
  rw [split, Scene.bears_append (history ++ [_]), Scene.after_append (history ++ [_]), read]
  generalize found : changed (upcoming items) session = arranged at hosted ⊢
  have numbered : session.attempts = arranged.attempts := by rw [← found]; rfl
  have obeyed : ran = obeyUntil setting (upcoming items).reading arranged := by
    rw [← found]
    exact hear_apply setting (upcoming items) session
  rw [obeyed, numbered]
  rcases hosted with ⟨quiet, world, attempts⟩ | ⟨request, one, attempts, world⟩
  · obtain ⟨behind, same⟩ := Scene.bears_of_launches_nil setting.host
      ⟨arranged.world, arranged.attempts, items.tail⟩ _ quiet
    rw [world, attempts]
    exact ⟨⟨borne, behind⟩, same⟩
  · obtain ⟨behind, same⟩ := Scene.bears_of_launch setting.host
      ⟨arranged.world, arranged.attempts, items.tail⟩ _ one
      (startedBy_eq_some_iff setting (upcoming items).reading arranged one)
    rw [world, attempts]
    exact ⟨⟨borne, behind⟩, same⟩

/-- What a step preserves. -/
theorem Step.followed {setting : Setting ω σ} {first : Scene ω σ} {before after : System ω σ}
    (step : Step setting before after) (followed : Followed setting.host first before) :
    Followed setting.host first after := by
  obtain ⟨bears, here⟩ := followed
  -- Beside readings and launches there is nothing that changes the scene.
  have goes_on {history : History} (more : History) (past : first.Bears setting.host history)
      (still : ∀ scene : Scene ω σ,
        scene.Bears setting.host more ∧ scene.after setting.host more = scene) :
      first.Bears setting.host (history ++ more) ∧
        first.after setting.host (history ++ more) = first.after setting.host history := by
    rw [Scene.bears_append, Scene.after_append]
    exact ⟨⟨past, (still _).1⟩, (still _).2⟩
  cases step with
  | ask items session channels history ran asks =>
    subst asks
    obtain ⟨quiet, attempts⟩ := awaitLine_launches setting session
    obtain ⟨borne, same⟩ := goes_on _ bears fun _ =>
      Scene.bears_of_launches_nil _ _ none quiet
    refine ⟨borne, ?_⟩
    intro others left
    obtain rfl := left?_prompted left
    rw [same, here items rfl, awaitLine_world, attempts]
  | hear items session channels history ran obeys =>
    subst obeys
    obtain ⟨borne, same⟩ := hear_followed setting bears (here items rfl)
    refine ⟨borne, ?_⟩
    intro others left
    obtain rfl := left?_after left
    exact same
  | await child line name process items session channels history =>
    obtain ⟨borne, same⟩ := goes_on [.awaited child] bears
      fun _ => ⟨⟨trivial, trivial⟩, rfl⟩
    exact ⟨borne, fun others left => same.trans (here others left)⟩
  | settle position session front back child report history =>
    obtain ⟨borne, same⟩ := goes_on [.settled child report] bears
      fun _ => ⟨⟨trivial, trivial⟩, rfl⟩
    exact ⟨borne, fun others left => same.trans (here others left)⟩
  | receive child line name process items session front back report history ran resumes =>
    obtain ⟨quiet, attempts⟩ := resume_launches setting line
      (.ok (.waiting name { process with report })) session
    have world := resume_world setting line (.ok (.waiting name { process with report })) session
    rw [resumes] at quiet attempts world
    obtain ⟨borne, same⟩ := goes_on
      (.received child report.wait :: History.ofTrace none ran.trace) bears
      fun scene =>
        have silent := Scene.bears_of_launches_nil _ scene none quiet
        ⟨⟨trivial, silent.1⟩, silent.2⟩
    refine ⟨borne, ?_⟩
    intro others left
    obtain rfl := left?_after left
    exact same.trans ((here items rfl).trans (by rw [world, attempts]))

/-- What every run preserves, whatever the order of its steps. -/
theorem Reachable.followed {setting : Setting ω σ} {items : List (Item ω σ)} {world : ω} {sink : σ}
    {system : System ω σ} (reached : Reachable setting (outset items world sink) system) :
    Followed setting.host ⟨world, 0, items⟩ system := by
  induction reached with
  | start =>
    refine ⟨trivial, ?_⟩
    rintro others left
    obtain rfl := Option.some.inj left
    rfl
  | step before after earlier step ih => exact step.followed ih

end Session

end CommandShell
