import CommandShell.Proofs.Session.Acceptance
import CommandShell.Proofs.Session.Timing

/-!
A session waits for each process it starts, in every order in which the loop and the reporters take
their steps.
-/

set_option autoImplicit false

namespace CommandShell.Session

variable {ω σ : Type}

/-- In every order of steps, over every script, host and sink: there is never more than one process
whose end is still to come. From the launch of a process to its end there is no prompt, no other launch
and no output. What the loop receives of a process is what was reported of it, or that it was abandoned
where its reporter went away, and it receives that once. Readings come in the order of the script, and
a launch is made for the line read last, at most one for each; there is a process from it on exactly
where the host accepts it, in the world that the readings and the launches before it have left. When the
reports come makes no difference to what the loop does, and each way a session can go as a whole comes
about step by step. -/
theorem reachable_waits (setting : Setting ω σ) (items : List (Item ω σ)) (world : ω) (sink : σ) :
    (∀ system, Reachable setting (outset items world sink) system →
      system.unsettled = system.history.outstanding ∧
      (∀ past later, system.history = past ++ later → past.outstanding.length ≤ 1) ∧
      (∀ past launch child since moment other later,
        system.history = past ++ .did launch (some child) :: (since ++ .did moment other :: later) →
        (∀ report, .settled child report ∉ since) → moment.event.Quiet) ∧
      (∀ past child outcome later,
        system.history = past ++ .received child outcome :: later →
        (∃ before report since, past = before ++ .settled child report :: since ∧
            (report = .reported outcome ∨ report = .dropped ∧ outcome = .error .abandoned) ∧
            ∀ other, .settled child other ∉ before ++ since ++ later) ∧
          ∀ other, .received child other ∉ past ++ later) ∧
      system.history.readings <+: unread items ∧
      (∀ past moment child later, system.history = past ++ .did moment child :: later →
        (child.isSome → moment.event.launched?.isSome) ∧
          ∀ request, moment.event.launched? = some request →
            Caused past request ∧
              let scene := Scene.after setting.host ⟨world, 0, items⟩ past
              ∀ number, child = some number ↔ number = scene.attempts ∧ ∃ process,
                (setting.host.launch scene.attempts scene.world request).outcome = .ok process) ∧
      ∀ reports, system.history.Agrees reports →
        let ran := run (setting.reporting reports) items (start world sink)
        system.history.moments <+: ran.trace ∧
          ∀ result, system.position = .ended result →
            ran = ⟨result, system.session, system.history.moments⟩) ∧
    ∀ reports,
      let ran := run (setting.reporting reports) items (start world sink)
      ∃ system, Reachable setting (outset items world sink) system ∧
        system.position = .ended ran.result ∧ system.session = ran.after ∧
        system.history.moments = ran.trace := by
  refine ⟨?_, run_reachable setting items world sink⟩
  intro system reached
  have sound := reached.sound
  have lawful := sound.lawful
  refine ⟨sound.unsettled_eq, ?_, ?_, ?_, sound.readings_prefix, ?_, ?_⟩
  · intro past later whole
    rw [whole] at lawful
    exact lawful.of_append.outstanding_length
  · intro past launch child since moment other later whole unsettled
    have running := History.mem_outstanding_of_not_settled past launch child since unsettled
    have split : system.history =
        (past ++ .did launch (some child) :: since) ++ .did moment other :: later := by
      rw [whole]
      simp
    exact (lawful _ _ later split).1 (List.ne_nil_of_mem running)
  · intro past child outcome later whole
    exact ⟨received_of_lawful lawful whole, received_once lawful whole⟩
  · intro past moment child later whole
    obtain ⟨-, caused, started⟩ := lawful past _ later whole
    have bears := reached.followed.bears
    rw [whole] at bears
    refine ⟨?_, fun request launched => ⟨caused request launched, bears.admits request launched⟩⟩
    intro labelled
    obtain ⟨number, same⟩ := Option.isSome_iff_exists.mp labelled
    exact (started number same).1
  · intro reports agrees ran
    have followed := reached.follows_run reports agrees
    refine ⟨⟨_, (congrArg Ran.trace followed).symm⟩, ?_⟩
    intro result ended
    rw [ended] at followed
    exact followed.trans (by simp [remaining])

/-- A setting in which every program can be started, and has a number. -/
def accepting : Setting Surroundings Unit :=
  ⟨.environment, .still fun _ _ => .ok ⟨some 7, .dropped⟩, .unlimited, "$ ".toList⟩

/-- A program that is stopped by a signal before the loop begins to wait for it. -/
theorem reachable_waits_accepting :
    let items : List (Item Surroundings Unit) := [.plain (.line "/x y".toList)]
    let program : Path := Utf8.encode "/x".toList
    let request : LaunchRequest := ⟨program, "/x".toList, ["y".toList]⟩
    ∃ system, Reachable accepting (outset items ⟨none, Files.none⟩ ()) system ∧
      (∃ past started later,
        system.history = past ++ .did ⟨.dispatching, .launch request⟩ (some 0) ::
          ([started] ++ .did ⟨.dispatching, .noted (.started 7 program)⟩ none :: later) ∧
        (Event.noted (.started 7 program)).Quiet ∧ Caused past request) ∧
      ∃ past later, system.history = past ++ .received 0 (.ok (.signaled 2)) :: later ∧
        ∃ before report since, past = before ++ .settled 0 report :: since ∧
          (report = .reported (.ok (.signaled 2)) ∨
            report = .dropped ∧
              (.ok (.signaled 2) : Except ProcessError Termination) = .error .abandoned) ∧
          ∀ other, .settled 0 other ∉ before ++ since ++ later := by
  intro items program request
  let prompted := awaitLine accepting (start ⟨none, Files.none⟩ ())
  let ran := hear accepting (upcoming items) prompted.after
  have asked : Reachable accepting (outset items ⟨none, Files.none⟩ ()) _ :=
    .step _ _ .start (.ask _ _ _ _ prompted rfl)
  have heard := Reachable.step _ _ asked (.hear items _ _ _ ran rfl)
  have settled := Reachable.step _ _ heard
    (.settle _ _ [] [] 0 (.reported (.ok (.signaled 2))) _)
  have waited := Reachable.step _ _ settled
    (.await 0 "/x y".toList "/x".toList ⟨some 7, .dropped⟩ [] _ _ _)
  have received := Reachable.step _ _ waited (.receive 0 _ _ _ [] _ [] [] _ _ _ rfl)
  -- What the loop does for the line, up to the launch and from there to its wait.
  have begun : startedBy prompted.after.attempts ran.result = some 0 := by decide +kernel
  obtain ⟨front, traced⟩ : ∃ front, ran.trace = front ++ [⟨.dispatching, .launch request⟩,
      ⟨.dispatching, .performed .nothing⟩, ⟨.dispatching, .noted (.started 7 program)⟩] :=
    ⟨ran.trace.take 5, by decide +kernel⟩
  let past : History := History.ofTrace none prompted.trace ++
    .read (upcoming items).reading :: History.ofTrace (some 0) front
  have split (later : History) : [] ++ History.ofTrace none prompted.trace ++
      .read (upcoming items).reading ::
        History.ofTrace (startedBy prompted.after.attempts ran.result) ran.trace ++
          [.settled 0 (.reported (.ok (.signaled 2)))] ++ [.awaited 0] ++ later =
      past ++ .did ⟨.dispatching, .launch request⟩ (some 0) ::
        ([.did ⟨.dispatching, .performed .nothing⟩ none] ++
          .did ⟨.dispatching, .noted (.started 7 program)⟩ none ::
            ([.settled 0 (.reported (.ok (.signaled 2))), .awaited 0] ++ later)) := by
    rw [begun, traced]
    simp [past, History.ofTrace, Event.launched?]
  obtain ⟨waits, -⟩ := reachable_waits accepting items ⟨none, Files.none⟩ ()
  obtain ⟨-, -, quiet, once, -, made, -⟩ := waits _ received
  refine ⟨_, received, ⟨past, _, _, split _, ?_, ?_⟩, _, _, rfl, (once _ 0 _ _ rfl).1⟩
  · exact quiet past _ 0 _ _ none _ (split _) (by simp)
  · exact ((made past _ (some 0) _ (split _)).2 request rfl).1

end CommandShell.Session
