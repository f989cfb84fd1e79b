import CommandShell.Proofs.Session.Acts

/-!
The phases of a session as a machine, and the traces that follow it.
-/

set_option autoImplicit false

namespace CommandShell

/-- The phases that may come after a phase. Nothing comes after the last. -/
def Phase.next : Phase → List Phase
  | .idle => [.idle, .parsing, .terminated]
  | .parsing => [.idle, .dispatching]
  | .dispatching => [.idle, .terminated]
  | .terminated => []

theorem Phase.idle_mem_next {phase : Phase} (going : phase ≠ .terminated) : .idle ∈ phase.next := by
  cases phase with
  | terminated => exact absurd rfl going
  | _ => exact List.mem_cons_self

/-- What may happen in a phase, moves to another phase left aside. Lines are asked for in the idle
phase alone, and all that is written there is the newline at the end of the input. -/
def Event.Fits (phase : Phase) : Event → Prop
  | .noted (.moved _ _) => False
  | .prompt _ => phase = .idle
  | .launch _ | .performed _ | .ended _ => phase = .dispatching
  | .wrote taken => phase = .dispatching ∨ phase = .idle ∧ (taken = [] ∨ taken = lineBytes [])
  | .writeFailed | .flushed | .flushFailed | .noted _ => phase = .idle ∨ phase = .dispatching

/-- Whether an event is the move to a phase. -/
def Event.enters (phase : Phase) : Event → Bool
  | .noted (.moved _ next) => next == phase
  | _ => false

def Event.isPrompt : Event → Bool
  | .prompt _ => true
  | _ => false

/-- How much of a newline is taken: all of it or nothing. -/
theorem take_newline (count : Nat) :
    (lineBytes []).take count = [] ∨ (lineBytes []).take count = lineBytes [] := by
  have single : (lineBytes []).length = 1 := by decide
  by_cases none_taken : count = 0
  · subst none_taken
    exact .inl rfl
  · right
    apply List.take_of_length_le
    omega

/-- Nothing happens while a line is parsed, or after the last move. -/
theorem Event.active_of_fits {event : Event} {phase : Phase} (fits : event.Fits phase) :
    phase = .idle ∨ phase = .dispatching := by
  cases event with
  | prompt text => exact .inl fits
  | launch request => exact .inr fits
  | performed written => exact .inr fits
  | ended name => exact .inr fits
  | wrote taken =>
    rcases fits with dispatching | ⟨idle, -⟩
    · exact .inr dispatching
    · exact .inl idle
  | noted note =>
    cases note with
    | moved previous next => exact fits.elim
    | _ => exact fits
  | _ => exact fits

theorem Event.not_fits_of_enters {event : Event} {phase entered : Phase}
    (enters : event.enters entered = true) : ¬ event.Fits phase := by
  intro fits
  cases event with
  | noted note =>
    cases note with
    | moved previous next => exact fits
    | _ => cases enters
  | _ => cases enters

namespace Trace

/-- A trace that leads from one phase to another: what happens fits the phase in force, and each move
is from that phase to one that may come next. -/
inductive Leads : Phase → Trace → Phase → Prop
  | nil (phase : Phase) : Leads phase [] phase
  | here (phase last : Phase) (event : Event) (rest : Trace) (fits : event.Fits phase)
      (later : Leads phase rest last) : Leads phase (⟨phase, event⟩ :: rest) last
  | move (phase next last : Phase) (rest : Trace) (allowed : next ∈ phase.next)
      (later : Leads next rest last) :
      Leads phase (⟨next, .noted (.moved phase next)⟩ :: rest) last

/-- How often a phase is entered. -/
def entries (phase : Phase) (trace : Trace) : Nat := trace.countP (·.event.enters phase)

/-- How often a line is asked for. -/
def prompts (trace : Trace) : Nat := trace.countP (·.event.isPrompt)

/-- What happens in a phase. -/
def during (phase : Phase) (trace : Trace) : Trace := trace.filter (·.phase == phase)

@[simp] theorem entries_append (phase : Phase) (first second : Trace) :
    entries phase (first ++ second) = entries phase first + entries phase second := by
  simp only [entries, List.countP_append]

@[simp] theorem prompts_append (first second : Trace) :
    prompts (first ++ second) = prompts first + prompts second := by
  simp only [prompts, List.countP_append]

@[simp] theorem during_append (phase : Phase) (first second : Trace) :
    during phase (first ++ second) = during phase first ++ during phase second := by
  simp only [during, List.filter_append]

theorem Leads.append {first middle last : Phase} {trace rest : Trace}
    (walk : Leads first trace middle) (later : Leads middle rest last) :
    Leads first (trace ++ rest) last := by
  induction walk with
  | nil phase => exact later
  | here phase _ event _ fits _ ih => exact .here _ _ event _ fits (ih later)
  | move phase next _ _ allowed _ ih => exact .move _ next _ _ allowed (ih later)

/-- Nothing fits the last phase, and nothing comes after it. -/
theorem Leads.of_terminated {trace : Trace} {last : Phase} (walk : Leads .terminated trace last) :
    trace = [] ∧ last = .terminated := by
  cases walk with
  | nil phase => exact ⟨rfl, rfl⟩
  | here phase _ event rest fits later =>
    rcases Event.active_of_fits fits with idle | dispatching
    · cases idle
    · cases dispatching
  | move phase next _ rest allowed later => simp [Phase.next] at allowed

/-- The last phase is entered once if the trace leads there, and otherwise never. -/
theorem Leads.entries_terminated {first last : Phase} {trace : Trace} (walk : Leads first trace last)
    (begun : first ≠ .terminated) :
    entries .terminated trace = if last = .terminated then 1 else 0 := by
  induction walk with
  | nil phase => simp [begun, entries]
  | here phase last event rest fits later ih =>
    have other : event.enters .terminated = false := by
      cases enters : event.enters .terminated with
      | false => rfl
      | true => exact absurd fits (Event.not_fits_of_enters enters)
    rw [← ih begun, entries, entries, List.countP_cons_of_neg (by simp [other])]
  | move phase next last rest allowed later ih =>
    by_cases ended : next = .terminated
    · subst ended
      obtain ⟨rfl, rfl⟩ := later.of_terminated
      rfl
    · rw [← ih ended, entries, entries, List.countP_cons_of_neg]
      simpa [Event.enters] using ended

/-- The move to the last phase is the last thing that happens. -/
theorem Leads.last_of_enters {first last : Phase} {front back : Trace} {moment : Moment}
    (walk : Leads first (front ++ moment :: back) last)
    (enters : moment.event.enters .terminated = true) : back = [] := by
  generalize whole : front ++ moment :: back = trace at walk
  induction walk generalizing front with
  | nil phase => simp at whole
  | here phase last event rest fits later ih =>
    cases front with
    | nil =>
      obtain ⟨rfl, rfl⟩ := List.cons.inj whole
      exact absurd fits (Event.not_fits_of_enters enters)
    | cons earlier front => exact ih (List.cons.inj whole).2
  | move phase next last rest allowed later ih =>
    cases front with
    | nil =>
      obtain ⟨rfl, rfl⟩ := List.cons.inj whole
      have ended : next = .terminated := by simpa [Event.enters] using enters
      subst ended
      exact later.of_terminated.1
    | cons earlier front => exact ih (List.cons.inj whole).2

/-- A trace within one phase. -/
def Stays (phase : Phase) (trace : Trace) : Prop :=
  ∀ moment ∈ trace, moment.phase = phase ∧ moment.event.Fits phase

@[simp] theorem stays_nil (phase : Phase) : Stays phase [] := by
  intro moment member
  cases member

@[simp] theorem stays_cons (phase : Phase) (moment : Moment) (rest : Trace) :
    Stays phase (moment :: rest) ↔
      (moment.phase = phase ∧ moment.event.Fits phase) ∧ Stays phase rest := by
  simp only [Stays, List.forall_mem_cons]

@[simp] theorem stays_append (phase : Phase) (first second : Trace) :
    Stays phase (first ++ second) ↔ Stays phase first ∧ Stays phase second := by
  simp only [Stays, List.forall_mem_append]

theorem Stays.leads {phase : Phase} {trace : Trace} (within : Stays phase trace) :
    Leads phase trace phase := by
  induction trace with
  | nil => exact .nil phase
  | cons moment rest ih =>
    obtain ⟨⟨here, fits⟩, others⟩ := (stays_cons _ _ _).mp within
    obtain ⟨_, event⟩ := moment
    subst here
    exact .here _ _ event rest fits (ih others)

theorem Stays.entries_eq_zero {phase : Phase} {trace : Trace} (within : Stays phase trace)
    (entered : Phase) : entries entered trace = 0 := by
  rw [entries, List.countP_eq_zero]
  intro moment member enters
  exact Event.not_fits_of_enters enters (within moment member).2

theorem Stays.prompts_eq_zero {phase : Phase} {trace : Trace} (within : Stays phase trace)
    (busy : phase ≠ .idle) : prompts trace = 0 := by
  rw [prompts, List.countP_eq_zero]
  intro moment member asks
  have fits := (within moment member).2
  cases event : moment.event <;> rw [event] at asks fits <;> simp [Event.isPrompt] at asks
  exact busy fits

theorem Stays.during_eq_nil {phase : Phase} {trace : Trace} (within : Stays phase trace)
    (other : Phase) (different : phase ≠ other) : during other trace = [] := by
  rw [during, List.filter_eq_nil_iff]
  intro moment member same
  rw [(within moment member).1] at same
  exact different (eq_of_beq same)

end Trace

end CommandShell
