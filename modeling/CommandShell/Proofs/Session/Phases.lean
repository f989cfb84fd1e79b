import CommandShell.Proofs.Session.Paths
import CommandShell.Proofs.Session.Turns
import CommandShell.Proofs.Words

/-!
Every session follows the machine of its phases, whatever becomes of its programs and its sink.
-/

set_option autoImplicit false

namespace CommandShell

def Reading.isLine : Reading → Bool
  | .line _ => true
  | _ => false

/-- Whether a line is read that is not blank. -/
def Reading.isCommand : Reading → Bool
  | .line text => !text.isBlank
  | _ => false

namespace Session

variable {ω σ : Type}

/-- The phase that each ending leaves behind. Where there is none the loop can go on. -/
def Leaves : Option (Except ShellError Nat) → Phase → Prop
  | none, phase => .idle ∈ phase.next
  | some (.ok _), phase => phase = .terminated
  | some (.error (.input _)), phase => phase = .terminated
  | some (.error _), phase => phase = .idle ∨ phase = .dispatching

/-- What a piece of a session has to do with the machine: where it leads, how often it asks for a line,
and what it makes of the lines it reads. -/
structure Phased (first : Phase) (trace : Trace) (last : Phase) (asked : Nat)
    (readings : List Reading) (ending : Option (Except ShellError Nat)) : Prop where
  leads : trace.Leads first last
  prompts : trace.prompts = asked
  parsing : trace.entries .parsing = readings.countP Reading.isLine
  dispatching : trace.entries .dispatching = readings.countP Reading.isCommand
  newline : (trace.during .idle).output = [] ∨
    ending.isSome ∧ (trace.during .idle).output = lineBytes [] ∧
      readings.getLast? = some .endOfInput
  unread : ∀ cause, ending = some (.error (.input cause)) ↔ .failed cause ∈ readings
  leaves : Leaves ending last

/-- One piece after another that has not ended the session. -/
theorem Phased.append {first middle last : Phase} {trace rest : Trace} {asked more : Nat}
    {readings others : List Reading} {ending : Option (Except ShellError Nat)}
    (earlier : Phased first trace middle asked readings none)
    (later : Phased middle rest last more others ending) :
    Phased first (trace ++ rest) last (asked + more) (readings ++ others) ending := by
  have silent : (trace.during .idle).output = [] := by
    rcases earlier.newline with silent | ⟨impossible, -⟩
    · exact silent
    · cases impossible
  refine ⟨earlier.leads.append later.leads, ?_, ?_, ?_, ?_, ?_, later.leaves⟩
  · rw [Trace.prompts_append, earlier.prompts, later.prompts]
  · rw [Trace.entries_append, earlier.parsing, later.parsing, List.countP_append]
  · rw [Trace.entries_append, earlier.dispatching, later.dispatching, List.countP_append]
  · rw [Trace.during_append, Trace.output_append, silent, List.nil_append]
    rcases later.newline with quiet | ⟨ended, newline, atEnd⟩
    · exact .inl quiet
    · refine .inr ⟨ended, newline, ?_⟩
      rw [List.getLast?_append, atEnd]
      rfl
  · intro cause
    have readable : .failed cause ∉ readings := by
      rw [← earlier.unread cause]
      simp
    rw [later.unread cause, List.mem_append]
    exact (or_iff_right readable).symm

/-- What stays in the dispatching phase reads no line and asks for none. -/
theorem Phased.of_stays {trace : Trace} {ending : Option (Except ShellError Nat)}
    (within : trace.Stays .dispatching) (leaves : Leaves ending .dispatching) :
    Phased .dispatching trace .dispatching 0 [] ending := by
  have busy : Phase.dispatching ≠ .idle := by decide
  refine ⟨within.leads, within.prompts_eq_zero busy, within.entries_eq_zero _,
    within.entries_eq_zero _, .inl ?_, ?_, leaves⟩
  · rw [within.during_eq_nil .idle busy]
    rfl
  · intro cause
    refine ⟨?_, by simp⟩
    intro unread
    rw [unread] at leaves
    cases leaves

theorem stays_ofNotes (phase : Phase) (notes : List Note)
    (fit : ∀ note ∈ notes, (Event.noted note).Fits phase) :
    (Trace.ofNotes phase notes).Stays phase := by
  intro moment member
  obtain ⟨note, among, rfl⟩ := List.mem_map.mp member
  exact ⟨rfl, fit note among⟩

theorem lookupNotes_fit (name : Text) (resolution : Resolution) :
    ∀ note ∈ lookupNotes name resolution, (Event.noted note).Fits .dispatching := by
  intro note member
  cases resolution with
  | builtin builtin => cases member
  | executable path =>
    rw [lookupNotes, List.mem_singleton] at member
    subst member
    exact .inr rfl
  | notFound =>
    rw [lookupNotes, List.mem_singleton] at member
    subst member
    exact .inr rfl

theorem openingNotes_fit (source : PathSource) (around : Surroundings) (command : Command) :
    ∀ note ∈ openingNotes source around command, (Event.noted note).Fits .dispatching := by
  intro note member
  rw [openingNotes, List.mem_append, List.mem_cons] at member
  rcases member with looked | rfl | later
  · exact lookupNotes_fit _ _ note looked
  · exact .inr rfl
  · split at later
    · exact lookupNotes_fit _ _ note later
    · rw [List.mem_singleton] at later
      subst later
      exact .inr rfl
    · cases later

theorem performed_stays (setting : Setting ω σ) (command : Command) (before : State ω σ)
    (busy : before.phase = .dispatching) (errand : Errand) (ran : Ran ω σ ShellError Begun)
    (performed : Performed setting command before errand ran) :
    ran.trace.Stays .dispatching ∧ ran.after.phase = .dispatching := by
  cases performed with
  | started program process written world flushed done launched =>
    refine ⟨?_, busy⟩
    rw [busy, Trace.stays_append]
    refine ⟨by simp [launching, Event.Fits], stays_ofNotes _ _ ?_⟩
    intro note member
    unfold startNotes at member
    split at member
    · rw [List.mem_singleton] at member
      subst member
      exact .inr rfl
    · cases member
  | _ => exact ⟨by simp [launching, Event.Fits, busy], busy⟩

theorem ending_stays (begun : Begun) : (begun.ending .dispatching).Stays .dispatching := by
  cases begun with
  | done outcome => exact Trace.stays_nil _
  | waiting name process =>
    have noted : (Event.noted (endNote name process.report.wait)).Fits .dispatching := by
      unfold endNote
      split
      · split
        · exact .inr rfl
        · exact .inr rfl
      · exact .inr rfl
    rw [Begun.ending, Trace.stays_cons, Trace.stays_cons]
    exact ⟨⟨rfl, rfl⟩, ⟨rfl, noted⟩, Trace.stays_nil _⟩

theorem conclude_phased (setting : Setting ω σ) (line : Text) (outcome : Except ShellError Outcome)
    (before : State ω σ) (busy : before.phase = .dispatching) :
    let ran := conclude setting line outcome before
    Phased .dispatching ran.trace ran.after.phase 0 [] (verdict ran.result) := by
  intro ran
  have concluded : Concluded setting line before outcome ran :=
    conclude_cases setting line outcome before
  generalize ran = last at concluded ⊢
  cases concluded with
  | wentOn =>
    rw [busy]
    exact .of_stays (Trace.stays_nil _) (Phase.idle_mem_next (by simp))
  | left code after done =>
    rw [busy]
    refine ⟨?_, rfl, rfl, rfl, .inl rfl, by simp [verdict], rfl⟩
    exact .here _ _ _ _ (.inr rfl) (.move _ _ _ _ (by decide) (.nil _))
  | unflushed code reason after failed =>
    simp only [busy]
    exact .of_stays (by simp [Event.Fits]) (.inr rfl)
  | reported error after taken =>
    simp only [busy]
    exact .of_stays (by simp [Event.Fits]) (Phase.idle_mem_next (by simp))
  | unreported error refusal after refused =>
    simp only [busy]
    exact .of_stays (by simp [Event.Fits]) (.inr rfl)

theorem resume_phased (setting : Setting ω σ) (line : Text) (begun : Except ShellError Begun)
    (before : State ω σ) (busy : before.phase = .dispatching) :
    let ran := resume setting line begun before
    Phased .dispatching ran.trace ran.after.phase 0 [] (verdict ran.result) := by
  cases begun with
  | error error => exact conclude_phased setting line (.error error) before busy
  | ok begun =>
    rw [resume_ok, busy]
    have ended : Phased .dispatching (begun.ending .dispatching) .dispatching 0 [] none :=
      .of_stays (ending_stays begun) (Phase.idle_mem_next (by simp))
    exact ended.append (conclude_phased setting line (.ok begun.outcome) before busy)

theorem obeyLine_phased (setting : Setting ω σ) (line : Text) (before : State ω σ)
    (idle : before.phase = .idle) :
    let ran := obeyLine setting line before
    Phased .idle ran.trace ran.after.phase 0 [.line line] (verdict ran.result) := by
  cases blank : line.isBlank with
  | true =>
    rw [obeyLine_of_blank _ _ _ ((Command.isBlank_parse line).trans blank), idle]
    refine ⟨.move _ _ _ _ (by decide) (.nil _), rfl, rfl, ?_, .inl rfl, by simp [verdict],
      Phase.idle_mem_next (by simp)⟩
    simp [Trace.entries, Event.enters, Reading.isCommand, blank]
  | false =>
    rw [obeyLine_of_command _ _ _ ((Command.isBlank_parse line).trans blank), idle]
    let ready := State.dispatching before
    have entered : Phased .idle (entering .idle) .dispatching 0 [.line line] none := by
      refine ⟨?_, rfl, rfl, ?_, .inl rfl, by simp, Phase.idle_mem_next (by simp)⟩
      · exact .move _ _ _ _ (by decide) (.move _ _ _ _ (by decide) (.nil _))
      · simp [entering, Trace.entries, Event.enters, Reading.isCommand, blank]
    have opened : Phased .dispatching (opening setting (Command.parse line) ready) .dispatching 0 []
        none := by
      refine .of_stays (stays_ofNotes _ _ ?_) (Phase.idle_mem_next (by simp))
      exact openingNotes_fit _ _ _
    obtain ⟨within, busy⟩ := performed_stays setting (Command.parse line) ready rfl _ _
      (perform_cases setting (Command.parse line) (errandOf setting (Command.parse line) ready) ready)
    have performed : Phased .dispatching _ .dispatching 0 [] none :=
      .of_stays within (Phase.idle_mem_next (by simp))
    exact ((entered.append opened).append performed).append
      (resume_phased setting line _ _ busy)

theorem obey_phased (setting : Setting ω σ) (reading : Reading) (before : State ω σ)
    (idle : before.phase = .idle) :
    let ran := obey setting reading before
    Phased .idle ran.trace ran.after.phase 0 [reading] (verdict ran.result) := by
  cases reading with
  | line text => exact obeyLine_phased setting text before idle
  | interrupted =>
    simp only [obey, Act.pure_apply, idle]
    exact ⟨.nil _, rfl, rfl, rfl, .inl rfl, by simp [verdict], Phase.idle_mem_next (by simp)⟩
  | failed cause =>
    rw [obey, Act.bind_apply, Act.enter_apply, idle]
    exact ⟨.move _ _ _ _ (by decide) (.nil _), rfl, rfl, rfl, .inl rfl,
      by simp [verdict, eq_comm], rfl⟩
  | endOfInput =>
    rw [obey_endOfInput]
    have finished := finish_cases setting before
    generalize finish setting before = last at finished ⊢
    cases finished with
    | ended written after taken done =>
      rw [idle]
      refine ⟨?_, rfl, rfl, rfl, .inr ⟨rfl, by simp [Trace.during, Event.written], rfl⟩,
        by simp [verdict, Except.map], rfl⟩
      exact .here _ _ _ _ (.inl rfl) (.here _ _ _ _ (.inr ⟨rfl, .inr rfl⟩)
        (.here _ _ _ _ (.inl rfl) (.move _ _ _ _ (by decide) (.nil _))))
    | unwritten refusal after refused =>
      simp only [idle]
      refine ⟨?_, rfl, rfl, rfl, ?_, by simp [verdict, Except.map], .inl rfl⟩
      · exact .here _ _ _ _ (.inl rfl) (.here _ _ _ _ (.inr ⟨rfl, take_newline _⟩)
          (.here _ _ _ _ (.inl rfl) (.nil _)))
      · rcases take_newline refusal.taken with none_taken | all_taken
        · left
          simp [Trace.during, none_taken, Event.written]
        · right
          refine ⟨rfl, ?_, rfl⟩
          simp [Trace.during, all_taken, Event.written]
    | unflushed written reason after taken failed =>
      simp only [idle]
      refine ⟨?_, rfl, rfl, rfl, .inr ⟨rfl, by simp [Trace.during, Event.written], rfl⟩,
        by simp [verdict, Except.map], .inl rfl⟩
      exact .here _ _ _ _ (.inl rfl) (.here _ _ _ _ (.inr ⟨rfl, .inr rfl⟩)
        (.here _ _ _ _ (.inl rfl) (.nil _)))

/-- A turn asks for its line unless the flush before the prompt fails. -/
theorem turn_phased (setting : Setting ω σ) (item : Item ω σ) (before : State ω σ)
    (ready : .idle ∈ before.phase.next) :
    let ran := turn setting item before
    ∃ asked ≤ 1, (verdict ran.result = none → asked = 1) ∧
      Phased before.phase ran.trace ran.after.phase asked ([item.reading].take asked)
        (verdict ran.result) := by
  rcases emptied : setting.sink.flush before.sink with ⟨_ | reason, flushed⟩
  · rw [turn_of_done _ _ _ _ emptied]
    refine ⟨1, Nat.le_refl 1, fun _ => rfl, ?_⟩
    have rested : Phased before.phase
        [resting before.phase, ⟨.idle, .flushed⟩, ⟨.idle, .prompt setting.prompt⟩] .idle 1 []
        none := by
      refine ⟨.move _ _ _ _ ready ?_, rfl, rfl, rfl, .inl rfl, by simp, Phase.idle_mem_next (by simp)⟩
      exact .here _ _ _ _ (.inl rfl) (.here _ _ _ _ rfl (.nil _))
    exact rested.append (obey_phased setting item.reading (arranged item before flushed) rfl)
  · rw [turn_of_failed _ _ _ _ _ emptied]
    refine ⟨0, Nat.zero_le 1, by simp [verdict], ?_⟩
    refine ⟨.move _ _ _ _ ready ?_, rfl, rfl, rfl, .inl rfl, by simp [verdict], .inl rfl⟩
    exact .here _ _ _ _ (.inl rfl) (.nil _)

theorem take_few {α : Type} {count : Nat} (few : count ≤ 1) (first : α) (rest : List α) :
    (first :: rest).take count = [first].take count := by
  by_cases none_taken : count = 0
  · rw [none_taken, List.take_zero, List.take_zero]
  · have once : count = 1 := by omega
    rw [once, List.take_succ_cons, List.take_succ_cons, List.take_zero, List.take_nil]

/-- The loop, from any state in which it can ask for a line. -/
theorem run_phased (setting : Setting ω σ) (items : List (Item ω σ)) (before : State ω σ)
    (ready : .idle ∈ before.phase.next) :
    let ran := run setting items before
    Phased before.phase ran.trace ran.after.phase ran.trace.prompts
      (((items ++ [closing]).map Item.reading).take ran.trace.prompts) (some ran.result) := by
  -- What carries the induction is the phase: a turn that does not end the session leaves one from
  -- which the loop can go idle.
  induction items generalizing before with
  | nil =>
    obtain ⟨asked, few, -, phased⟩ := turn_phased setting closing before ready
    obtain ⟨result, ended, last⟩ := run_nil_ended setting before
    rw [ended] at phased
    simp only [last, phased.prompts, List.nil_append, List.map_cons, take_few few]
    exact phased
  | cons item rest ih =>
    obtain ⟨asked, few, all, phased⟩ := turn_phased setting item before ready
    cases ended : verdict (turn setting item before).result with
    | none =>
      have once := all ended
      subst once
      rw [ended] at phased
      rw [run_cons_of_goOn _ _ _ _ ((verdict_eq_none_iff _).mp ended)]
      have whole := phased.append (ih (turn setting item before).after phased.leaves)
      have counted := whole.prompts
      simp only at counted ⊢
      rw [counted, Nat.add_comm 1, List.cons_append, List.map_cons, List.take_succ_cons]
      rw [Nat.add_comm 1] at whole
      exact whole
    | some result =>
      rw [ended] at phased
      rw [run_cons_of_ended _ _ _ _ _ ended]
      simp only [phased.prompts, List.cons_append, List.map_cons, take_few few]
      exact phased

theorem terminated_iff {result : Except ShellError Nat} {last : Phase}
    (leaves : Leaves (some result) last) :
    last = .terminated ↔
      (∃ code, result = .ok code) ∨ ∃ cause, result = .error (.input cause) := by
  rcases result with error | code
  · cases error with
    | input cause =>
      refine ⟨fun _ => .inr ⟨cause, rfl⟩, fun _ => leaves⟩
    | _ =>
      rcases leaves with idle | dispatching
      · simp [idle]
      · simp [dispatching]
  · exact ⟨fun _ => .inl ⟨code, rfl⟩, fun _ => leaves⟩

/-- From its start on, a session follows the machine of its phases, for every script, every host and
every sink. Each line it reads is parsed once, and each that is not blank is dispatched once. The last
phase is entered when the session ends as it should or there is nothing to be read any more; a failing
sink leaves the session idle or dispatching. -/
theorem run_follows_phases (setting : Setting ω σ) (items : List (Item ω σ)) (world : ω) (sink : σ) :
    let ran := run setting items (start world sink)
    let readings := ((items ++ [closing]).map Item.reading).take ran.trace.prompts
    ran.trace.Leads .idle ran.after.phase ∧
      ((ran.trace.during .idle).output = [] ∨
        (ran.trace.during .idle).output = lineBytes [] ∧ readings.getLast? = some .endOfInput) ∧
      ran.trace.entries .parsing = readings.countP Reading.isLine ∧
      ran.trace.entries .dispatching = readings.countP Reading.isCommand ∧
      ran.trace.entries .terminated ≤ 1 ∧
      (∀ front moment back, ran.trace = front ++ moment :: back →
        moment.event.enters .terminated = true → back = [] ∧ ran.after.phase = .terminated) ∧
      (0 < ran.trace.entries .terminated ↔
        (∃ code, ran.result = .ok code) ∨ ∃ cause, ran.result = .error (.input cause)) ∧
      (∀ reason, ran.result = .error (.io reason) →
        ran.after.phase = .idle ∨ ran.after.phase = .dispatching) := by
  intro ran readings
  have phased : Phased .idle ran.trace ran.after.phase ran.trace.prompts readings (some ran.result) :=
    run_phased setting items (start world sink) (Phase.idle_mem_next (by simp [start]))
  have once := phased.leads.entries_terminated (by decide)
  have entered : 0 < ran.trace.entries .terminated ↔ ran.after.phase = .terminated := by
    rw [once]
    split <;> simp_all
  refine ⟨phased.leads, ?_, phased.parsing, phased.dispatching, ?_, ?_, ?_, ?_⟩
  · rcases phased.newline with silent | ⟨-, newline, atEnd⟩
    · exact .inl silent
    · exact .inr ⟨newline, atEnd⟩
  · rw [once]
    split <;> omega
  · intro front moment back whole enters
    have walk := phased.leads
    rw [whole] at walk
    refine ⟨walk.last_of_enters enters, ?_⟩
    apply entered.mp
    rw [Trace.entries, List.countP_pos_iff]
    exact ⟨moment, by rw [whole]; exact List.mem_append_cons_self, enters⟩
  · rw [entered]
    exact terminated_iff phased.leaves
  · intro reason failed
    have leaves := phased.leaves
    rw [failed] at leaves
    exact leaves

end Session

end CommandShell
