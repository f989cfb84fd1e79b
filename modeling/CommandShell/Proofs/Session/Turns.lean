import CommandShell.Proofs.Session.Turn

/-!
A run is a list of turns: each begins where the one before ended, and only the last ends the session.
-/

set_option autoImplicit false

namespace CommandShell.Session

variable {ω σ : Type}

/-- What is read when the script is over. -/
def closing : Item ω σ := .plain .endOfInput

/-- A turn that was taken. -/
structure Turned (ω σ : Type) where
  item : Item ω σ
  before : State ω σ
  ran : Ran ω σ ShellError (Option Nat)

/-- The turns that a run takes. -/
def turns (setting : Setting ω σ) : List (Item ω σ) → State ω σ → List (Turned ω σ)
  | [], before => [⟨closing, before, turn setting closing before⟩]
  | item :: rest, before =>
    ⟨item, before, turn setting item before⟩ ::
      match (turn setting item before).result with
      | .ok none => turns setting rest (turn setting item before).after
      | _ => []

/-- How the session ends after a turn, if it does. -/
def verdict : Except ShellError (Option Nat) → Option (Except ShellError Nat)
  | .ok none => none
  | .ok (some code) => some (.ok code)
  | .error error => some (.error error)

theorem verdict_eq_none_iff (result : Except ShellError (Option Nat)) :
    verdict result = none ↔ result = .ok none := by
  rcases result with error | _ | code <;> simp [verdict]

theorem verdict_eq_error_iff (result : Except ShellError (Option Nat)) (error : ShellError) :
    verdict result = some (.error error) ↔ result = .error error := by
  rcases result with other | _ | code <;> simp [verdict]

theorem map_getD_of_verdict (result : Except ShellError (Option Nat)) (last : Except ShellError Nat)
    (ended : verdict result = some last) : result.map (fun code => code.getD 0) = last := by
  rcases result with error | _ | code
  · cases ended
    rfl
  · cases ended
  · cases ended
    rfl

theorem obey_endOfInput (setting : Setting ω σ) (before : State ω σ) :
    obey setting .endOfInput before =
      ⟨(finish setting before).result.map some, (finish setting before).after,
        (finish setting before).trace⟩ := by
  rw [obey, Act.bind_apply]
  rcases finish setting before with ⟨_ | _, after, trace⟩ <;> simp [Except.map]

/-- After the script the input ends, as if its end had been read. -/
theorem run_nil (setting : Setting ω σ) (before : State ω σ) :
    run setting [] before =
      ⟨(turn setting closing before).result.map fun code => code.getD 0,
        (turn setting closing before).after, (turn setting closing before).trace⟩ := by
  rcases emptied : setting.sink.flush before.sink with ⟨_ | reason, flushed⟩
  · rw [run, Act.bind_apply, awaitLine_of_done _ _ _ emptied, turn_of_done _ _ _ _ emptied]
    simp only [closing, Item.plain, obey_endOfInput, arranged, Option.getD_none, id_eq]
    cases (finish setting ⟨.idle, before.world, flushed, before.attempts⟩).result <;> rfl
  · rw [run, Act.bind_apply, awaitLine_of_failed _ _ _ _ emptied, turn_of_failed _ _ _ _ _ emptied]
    rfl

/-- The turn in which the end of the input is read is the last one. -/
theorem run_nil_ended (setting : Setting ω σ) (before : State ω σ) :
    ∃ result, verdict (turn setting closing before).result = some result ∧
      run setting [] before =
        ⟨result, (turn setting closing before).after, (turn setting closing before).trace⟩ := by
  have ends : ∃ result, verdict (turn setting closing before).result = some result := by
    rcases emptied : setting.sink.flush before.sink with ⟨_ | reason, flushed⟩
    · rw [turn_of_done _ _ _ _ emptied]
      change ∃ result, verdict (obey setting .endOfInput (arranged closing before flushed)).result =
        some result
      rw [obey_endOfInput]
      rcases (finish setting (arranged closing before flushed)).result with error | code
      · exact ⟨.error error, rfl⟩
      · exact ⟨.ok code, rfl⟩
    · rw [turn_of_failed _ _ _ _ _ emptied]
      exact ⟨.error (.io reason), rfl⟩
  obtain ⟨result, ended⟩ := ends
  refine ⟨result, ended, ?_⟩
  rw [run_nil, map_getD_of_verdict _ _ ended]

theorem run_cons_of_goOn (setting : Setting ω σ) (item : Item ω σ) (rest : List (Item ω σ))
    (before : State ω σ) (next : (turn setting item before).result = .ok none) :
    run setting (item :: rest) before =
      ⟨(run setting rest (turn setting item before).after).result,
        (run setting rest (turn setting item before).after).after,
        (turn setting item before).trace ++
          (run setting rest (turn setting item before).after).trace⟩ := by
  rw [run, Act.bind_of_ok _ _ _ _ next]

theorem run_cons_of_ended (setting : Setting ω σ) (item : Item ω σ) (rest : List (Item ω σ))
    (before : State ω σ) (result : Except ShellError Nat)
    (ended : verdict (turn setting item before).result = some result) :
    run setting (item :: rest) before =
      ⟨result, (turn setting item before).after, (turn setting item before).trace⟩ := by
  rcases outcome : (turn setting item before).result with error | _ | code
  · rw [run, Act.bind_of_error _ _ _ _ outcome]
    rw [outcome] at ended
    cases ended
    rfl
  · rw [outcome] at ended
    cases ended
  · rw [run, Act.bind_of_ok _ _ _ _ outcome]
    rw [outcome] at ended
    cases ended
    simp

theorem turns_cons_of_goOn (setting : Setting ω σ) (item : Item ω σ) (rest : List (Item ω σ))
    (before : State ω σ) (next : (turn setting item before).result = .ok none) :
    turns setting (item :: rest) before =
      ⟨item, before, turn setting item before⟩ ::
        turns setting rest (turn setting item before).after := by
  rw [turns, next]

theorem turns_cons_of_ended (setting : Setting ω σ) (item : Item ω σ) (rest : List (Item ω σ))
    (before : State ω σ) (result : Except ShellError Nat)
    (ended : verdict (turn setting item before).result = some result) :
    turns setting (item :: rest) before = [⟨item, before, turn setting item before⟩] := by
  rw [turns]
  rcases outcome : (turn setting item before).result with error | _ | code
  · rfl
  · rw [outcome] at ended
    cases ended
  · rfl

/-- What holds of a session turn by turn holds of it as a whole: its turns are on the readings of the
script, in order, and on the end of the input after these; all that happens, happens in them; and the
session ends as the one turn does that ends it. -/
theorem run_eq_turns (setting : Setting ω σ) (items : List (Item ω σ)) (before : State ω σ) :
    let taken := turns setting items before
    taken.map Turned.item <+: items ++ [closing] ∧
      (run setting items before).trace = taken.flatMap (fun turned => turned.ran.trace) ∧
      ∀ result, (run setting items before).result = result ↔
        ∃ turned ∈ taken, verdict turned.ran.result = some result := by
  induction items generalizing before with
  | nil =>
    obtain ⟨result, ended, last⟩ := run_nil_ended setting before
    rw [last]
    refine ⟨List.prefix_rfl, ?_, ?_⟩
    · simp [turns]
    · simp [turns, ended]
  | cons item rest ih =>
    cases ended : verdict (turn setting item before).result with
    | none =>
      have next := (verdict_eq_none_iff _).mp ended
      obtain ⟨listed, traced, verdicts⟩ := ih (turn setting item before).after
      rw [run_cons_of_goOn _ _ _ _ next, turns_cons_of_goOn _ _ _ _ next]
      refine ⟨?_, ?_, ?_⟩
      · exact List.cons_prefix_cons.mpr ⟨rfl, listed⟩
      · rw [List.flatMap_cons, traced]
      · intro result
        rw [verdicts result]
        simp [ended]
    | some last =>
      rw [run_cons_of_ended _ _ _ _ _ ended, turns_cons_of_ended _ _ _ _ _ ended]
      refine ⟨?_, ?_, ?_⟩
      · exact List.cons_prefix_cons.mpr ⟨rfl, List.nil_prefix⟩
      · simp
      · simp [ended]

theorem ran_of_mem_turns (setting : Setting ω σ) (items : List (Item ω σ)) (before : State ω σ) :
    ∀ turned ∈ turns setting items before,
      turned.ran = turn setting turned.item turned.before := by
  induction items generalizing before with
  | nil =>
    intro turned member
    rw [turns, List.mem_singleton] at member
    subst member
    rfl
  | cons item rest ih =>
    intro turned member
    rw [turns, List.mem_cons] at member
    rcases member with rfl | later
    · rfl
    · split at later
      · exact ih _ turned later
      · cases later

theorem turns_eq_cons (setting : Setting ω σ) (items : List (Item ω σ)) (before : State ω σ) :
    ∃ item rest, turns setting items before = ⟨item, before, turn setting item before⟩ :: rest := by
  cases items with
  | nil => exact ⟨closing, [], rfl⟩
  | cons item rest => exact ⟨item, _, rfl⟩

/-- A turn after which the loop goes on is followed by another, which begins where the first has left
off; any other turn is the last. -/
theorem turns_next (setting : Setting ω σ) (items : List (Item ω σ)) (before : State ω σ)
    (front back : List (Turned ω σ)) (turned : Turned ω σ)
    (whole : turns setting items before = front ++ turned :: back) :
    (turned.ran.result = .ok none →
        ∃ next later, back = next :: later ∧ next.before = turned.ran.after) ∧
      (turned.ran.result ≠ .ok none → back = []) := by
  induction items generalizing before front with
  | nil =>
    obtain ⟨result, ended, -⟩ := run_nil_ended setting before
    cases front with
    | nil =>
      obtain ⟨rfl, rfl⟩ := List.cons.inj whole
      refine ⟨?_, fun _ => rfl⟩
      intro next
      rw [(verdict_eq_none_iff _).mpr next] at ended
      cases ended
    | cons first front =>
      have none_left := (List.cons.inj whole).2
      simp at none_left
  | cons item rest ih =>
    rw [turns] at whole
    cases front with
    | nil =>
      obtain ⟨rfl, others⟩ := List.cons.inj whole
      rcases outcome : (turn setting item before).result with error | _ | code
      · exact ⟨by simp, fun _ => by rw [← others, outcome]⟩
      · rw [outcome] at others
        obtain ⟨following, later, split⟩ :=
          turns_eq_cons setting rest (turn setting item before).after
        exact ⟨fun _ => ⟨_, later, others.symm.trans split, rfl⟩, fun ends => absurd rfl ends⟩
      · exact ⟨by simp, fun _ => by rw [← others, outcome]⟩
    | cons first front =>
      have others := (List.cons.inj whole).2
      split at others
      · exact ih _ front others
      · simp at others

end CommandShell.Session
