import CommandShell.Proofs.Session.System
import Mathlib.Data.List.Induction

/-!
What a history has to be like, occurrence by occurrence, and how it grows.
-/

set_option autoImplicit false

namespace CommandShell

/-- A line has been read that a launch serves, and since then nothing was read or launched. -/
def Caused (past : History) (request : LaunchRequest) : Prop :=
  ∃ before line since, past = before ++ .read (.line line) :: since ∧ request.Serves line ∧
    ∀ occurrence ∈ since, occurrence.reading? = none ∧ occurrence.launched? = none

/-- What may come after what has happened. As long as a process is outstanding the shell keeps quiet;
a launch is caused by the last line; a process is started when there is no other, settled once after
that, and received once with what it was settled with. -/
def Lawful (past : History) : Occurrence → Prop
  | .did moment child =>
    (past.outstanding ≠ [] → moment.event.Quiet) ∧
      (∀ request, moment.event.launched? = some request → Caused past request) ∧
      ∀ number, child = some number → moment.event.launched?.isSome ∧
        past.outstanding = [] ∧ ∀ occurrence ∈ past, occurrence.child? ≠ some number
  | .read _ => past.outstanding = []
  | .awaited _ => True
  | .settled child _ => child ∈ past.outstanding ∧ ∀ report, .settled child report ∉ past
  | .received child outcome =>
    (∃ report, .settled child report ∈ past ∧ outcome = report.wait) ∧
      ∀ other, .received child other ∉ past

namespace History

/-- A history each of whose occurrences may come where it comes. -/
def IsLawful (history : History) : Prop :=
  ∀ past occurrence later, history = past ++ occurrence :: later → Lawful past occurrence

theorem isLawful_nil : IsLawful [] := by
  intro past occurrence later whole
  simp at whole

theorem IsLawful.snoc {history : History} {occurrence : Occurrence} (lawful : history.IsLawful)
    (next : Lawful history occurrence) : IsLawful (history ++ [occurrence]) := by
  intro past other later whole
  rcases List.eq_nil_or_concat later with rfl | ⟨front, last, rfl⟩
  · obtain ⟨rfl, same⟩ := List.append_inj' whole rfl
    cases same
    exact next
  · rw [List.concat_eq_append, ← List.cons_append, ← List.append_assoc] at whole
    obtain ⟨rfl, -⟩ := List.append_inj' whole rfl
    exact lawful past other front rfl

theorem IsLawful.append {history : History} (lawful : history.IsLawful) (more : History)
    (next : ∀ front occurrence back, more = front ++ occurrence :: back →
      Lawful (history ++ front) occurrence) : IsLawful (history ++ more) := by
  induction more generalizing history with
  | nil => simpa using lawful
  | cons occurrence rest ih =>
    have grown := lawful.snoc (by simpa using next [] occurrence rest rfl)
    rw [List.append_cons]
    apply ih grown
    intro front other back whole
    have shifted := next (occurrence :: front) other back (by rw [whole]; rfl)
    rwa [List.append_cons] at shifted

theorem IsLawful.of_append {history more : History} (lawful : IsLawful (history ++ more)) :
    history.IsLawful := by
  intro past occurrence later whole
  exact lawful past occurrence (later ++ more) (by rw [whole]; simp)

/-- What may not come a second time comes once. -/
theorem IsLawful.once {history past later : History} {occurrence : Occurrence}
    (lawful : history.IsLawful) (whole : history = past ++ occurrence :: later)
    (alike : Occurrence → Prop) (here : alike occurrence)
    (first : ∀ earlier other, alike other → Lawful earlier other → ∀ one ∈ earlier, ¬ alike one) :
    ∀ other ∈ past ++ later, ¬ alike other := by
  intro other member same
  rcases List.mem_append.mp member with before | after
  · exact first past occurrence here (lawful past occurrence later whole) other before same
  · obtain ⟨between, rest, rfl⟩ := List.append_of_mem after
    have second : history = (past ++ occurrence :: between) ++ other :: rest := by
      rw [whole]
      simp
    exact first _ other same (lawful _ other rest second) occurrence List.mem_append_cons_self here

@[simp] theorem outstanding_snoc (history : History) (occurrence : Occurrence) :
    outstanding (history ++ [occurrence]) = track (outstanding history) occurrence := by
  rw [outstanding, List.foldl_append]
  rfl

theorem outstanding_append_unlabelled (history : History) (trace : Trace) :
    outstanding (history ++ trace.map (.did · none)) = outstanding history := by
  induction trace generalizing history with
  | nil => rw [List.map_nil, List.append_nil]
  | cons moment rest ih => rw [List.map_cons, List.append_cons, ih, outstanding_snoc]; rfl

/-- There is never more than one process that has been started and not settled. -/
theorem IsLawful.outstanding_length {history : History} (lawful : history.IsLawful) :
    history.outstanding.length ≤ 1 := by
  induction history using List.reverseRecOn with
  | nil => exact Nat.zero_le 1
  | append_singleton past last ih =>
    have few := ih lawful.of_append
    have next := lawful past last [] rfl
    rw [outstanding_snoc]
    cases last with
    | did moment child =>
      cases child with
      | none => exact few
      | some number =>
        have free := (next.2.2 number rfl).2.1
        simp [track, free]
    | settled child report => exact Nat.le_trans (List.length_filter_le _ _) few
    | _ => exact few

/-- What is running keeps running as long as it is not settled. -/
theorem mem_foldl_track (child : Nat) (since : History)
    (unsettled : ∀ report, .settled child report ∉ since) (running : List Nat)
    (runs : child ∈ running) : child ∈ since.foldl track running := by
  induction since generalizing running with
  | nil => exact runs
  | cons occurrence rest ih =>
    apply ih (fun report member => unsettled report (List.mem_cons_of_mem _ member))
    cases occurrence with
    | did moment other =>
      cases other with
      | none => exact runs
      | some number => exact List.mem_append_left _ runs
    | settled other report =>
      have different : child ≠ other := by
        rintro rfl
        exact unsettled report List.mem_cons_self
      exact List.mem_filter.mpr ⟨runs, by simpa using different⟩
    | _ => exact runs

/-- A process that was started and not settled is outstanding. -/
theorem mem_outstanding_of_not_settled (past : History) (launch : Moment) (child : Nat)
    (since : History) (unsettled : ∀ report, .settled child report ∉ since) :
    child ∈ outstanding (past ++ .did launch (some child) :: since) := by
  rw [outstanding, List.foldl_append, List.foldl_cons]
  exact mem_foldl_track child since unsettled _ (List.mem_append_right _ List.mem_cons_self)

@[simp] theorem readings_append (first second : History) :
    readings (first ++ second) = readings first ++ readings second := by
  simp only [readings, List.filterMap_append]

@[simp] theorem moments_append (first second : History) :
    moments (first ++ second) = moments first ++ moments second := by
  simp only [moments, List.filterMap_append]

/-- Without a process to go with a launch, the loop's doings carry none. -/
theorem ofTrace_none (trace : Trace) : ofTrace none trace = trace.map (.did · none) := by
  simp [ofTrace]

theorem ofTrace_of_launches_nil (child : Option Nat) (trace : Trace)
    (none_launched : trace.launches = []) : ofTrace child trace = trace.map (.did · none) := by
  apply List.map_congr_left
  intro moment member
  have quiet := List.filterMap_eq_nil_iff.mp none_launched moment member
  simp [quiet]

@[simp] theorem readings_ofTrace (child : Option Nat) (trace : Trace) :
    readings (ofTrace child trace) = [] := by
  simp [readings, ofTrace, Occurrence.reading?, Function.comp_def]

@[simp] theorem moments_ofTrace (child : Option Nat) (trace : Trace) :
    moments (ofTrace child trace) = trace := by
  simp [moments, ofTrace, Occurrence.moment?, Function.comp_def]

theorem readings_append_unlabelled (history : History) (trace : Trace) :
    readings (history ++ trace.map (.did · none)) = readings history := by
  rw [← ofTrace_none, readings_append, readings_ofTrace, List.append_nil]

theorem readings_snoc_read (history : History) (reading : Reading) :
    readings (history ++ [.read reading]) = readings history ++ [reading] := by
  rw [readings_append]
  rfl

/-- Of all occurrences only readings are read. -/
theorem readings_snoc (history : History) (occurrence : Occurrence)
    (unread : occurrence.reading? = none) :
    readings (history ++ [occurrence]) = readings history := by
  rw [readings_append, readings, readings, List.filterMap_cons_none unread, List.filterMap_nil,
    List.append_nil]

/-- The numbers in a history are those of launches that have been attempted. -/
def Fresh (history : History) (attempts : Nat) : Prop :=
  ∀ occurrence ∈ history, ∀ child, occurrence.child? = some child → child < attempts

theorem Fresh.mono {history : History} {attempts more : Nat} (fresh : history.Fresh attempts)
    (le : attempts ≤ more) : history.Fresh more := by
  intro occurrence member child mentions
  exact Nat.lt_of_lt_of_le (fresh occurrence member child mentions) le

theorem Fresh.snoc {history : History} {attempts : Nat} (fresh : history.Fresh attempts)
    (occurrence : Occurrence) (counted : ∀ child, occurrence.child? = some child → child < attempts) :
    Fresh (history ++ [occurrence]) attempts := by
  intro other member child mentions
  rcases List.mem_append.mp member with earlier | now
  · exact fresh other earlier child mentions
  · rw [List.mem_singleton.mp now] at mentions
    exact counted child mentions

theorem Fresh.append_unlabelled {history : History} {attempts : Nat} (fresh : history.Fresh attempts)
    (trace : Trace) : Fresh (history ++ trace.map (.did · none)) attempts := by
  intro other member child mentions
  rcases List.mem_append.mp member with earlier | now
  · exact fresh other earlier child mentions
  · obtain ⟨moment, -, rfl⟩ := List.mem_map.mp now
    cases mentions

/-- What the loop does without starting a process, as long as it launches nothing, and keeps quiet while
a process is outstanding. -/
theorem IsLawful.append_unlabelled {history : History} (lawful : history.IsLawful) (trace : Trace)
    (none_launched : trace.launches = [])
    (quiet : history.outstanding ≠ [] → ∀ moment ∈ trace, moment.event.Quiet) :
    IsLawful (history ++ trace.map (.did · none)) := by
  apply lawful.append
  intro front occurrence back whole
  obtain ⟨earlier, others, rfl, rfl, split⟩ := List.map_eq_append_iff.mp whole
  obtain ⟨moment, later, rfl, rfl, -⟩ := List.map_eq_cons_iff.mp split
  have here : moment ∈ earlier ++ moment :: later := List.mem_append_cons_self
  refine ⟨?_, ?_, by simp⟩
  · intro running
    rw [outstanding_append_unlabelled] at running
    exact quiet running moment here
  · intro request launched
    rw [List.filterMap_eq_nil_iff.mp none_launched moment here] at launched
    cases launched

/-- A line is read, and a launch is made for it. -/
theorem IsLawful.append_launch {history : History} (lawful : history.IsLawful) (line : Text)
    (front back : Trace) (phase : Phase) (request : LaunchRequest) (child : Option Nat)
    (free : history.outstanding = []) (serves : request.Serves line) (first : front.launches = [])
    (last : back.launches = []) (quiet : child.isSome → ∀ moment ∈ back, moment.event.Quiet)
    (fresh : ∀ number, child = some number →
      ∀ occurrence ∈ history, occurrence.child? ≠ some number) :
    IsLawful (history ++ .read (.line line) ::
      (front.map (.did · none) ++
        .did ⟨phase, .launch request⟩ child :: back.map (.did · none))) := by
  have heard : IsLawful (history ++ [.read (.line line)]) := lawful.snoc free
  have unlaunched := heard.append_unlabelled front first (by simp [track, free])
  have still_free :
      outstanding (history ++ [.read (.line line)] ++ front.map (.did · none)) = [] := by
    rw [outstanding_append_unlabelled, outstanding_snoc]
    exact free
  have launched : IsLawful (history ++ [.read (.line line)] ++ front.map (.did · none) ++
      [.did ⟨phase, .launch request⟩ child]) := by
    apply unlaunched.snoc
    refine ⟨fun running => absurd still_free running, ?_, ?_⟩
    · intro other same
      cases same
      refine ⟨history, line, front.map (.did · none), by simp, serves, ?_⟩
      intro occurrence member
      obtain ⟨moment, among, rfl⟩ := List.mem_map.mp member
      exact ⟨rfl, List.filterMap_eq_nil_iff.mp first moment among⟩
    · intro number started
      refine ⟨rfl, still_free, ?_⟩
      intro occurrence member
      simp only [List.mem_append, List.mem_singleton, List.mem_map] at member
      rcases member with (earlier | rfl) | ⟨moment, -, rfl⟩
      · exact fresh number started occurrence earlier
      · simp [Occurrence.child?]
      · simp [Occurrence.child?]
  have whole := launched.append_unlabelled back last (by
    intro running moment member
    cases child with
    | none =>
      rw [outstanding_snoc] at running
      exact absurd still_free running
    | some number => exact quiet rfl moment member)
  simpa using whole

end History

end CommandShell
